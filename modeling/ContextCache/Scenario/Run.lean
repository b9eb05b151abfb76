import ContextCache.Scenario.Session

/-!
Contract: running a scenario.

Steps are done in order and logged when they finish, so the lines of the steps in
a computation come before the line of the read that ran it. Two limits make every
scenario end: a scenario makes at most so many calls, and computations nest at
most so deep; a call beyond a limit fails.

Owns:
- the two limits, what each step does, and what a computation does.

Does not own: the language, and the state that steps work on.
-/

namespace ContextCache.Scenario

/-- The number of calls that may do something in one scenario. -/
def callLimit : Nat := 400

/-- The number of computations that may run inside each other. -/
def depthLimit : Nat := 40

/-- What surrounds a step: how many computations are running, and the context that
the innermost of them is for. -/
structure Surroundings where
  depth : Nat
  context : Option Nat
deriving Repr

/-- What a read of a definition, by its index, in a context, by its index, would
compute. -/
abbrev Computer := Nat → Nat → Computation Ledger

namespace Session

def place (session : Session) (use : Use) : Place :=
  { definition := ((session.own.definitions[use.definition]?).map DefinitionCard.key).getD 0
    context := ((session.own.contexts[use.context]?).map ContextCard.key).getD 0 }

/-- Reads a value while holding on to what the read uses. Each attempt makes a
call, and calls beyond the limit fail, so the attempts are never used up. -/
def readHeld (computer : Computer) (use : Use) (session : Session) :
    Except Failure Allocation × Session :=
  (session.hold use).read (computer use.definition use.context) (callLimit + 1)
    (session.place use)

def reply (session : Session) : Except Failure Allocation → Reply
  | .ok allocation => .value (session.own.holdings.content allocation) allocation
  | .error failure => .failed failure

/-- Remembers the value of a read among the shared values, if asked to. -/
def save (session : Session) (wanted : Bool) : Except Failure Allocation → Session
  | .ok allocation =>
    if wanted then
      session.withLedger fun ledger =>
        { ledger with holdings := ledger.holdings.share allocation }
    else
      session
  | .error _ => session

def contextText (session : Session) (card : ContextCard) : String :=
  "Context \x7b data: " ++ card.data.debugText ++ ", bound_definitions: " ++
    toString (session.world.context card.key).boundDefinitions ++ ", .. \x7d"

def definitionText (session : Session) (card : DefinitionCard) : String :=
  let registry := session.world.registry
  "ContextValue \x7b identity: Identity(" ++ toString (registry.identity card.key) ++
    "), cache_hash: " ++ toString (registry.hash card.key).toNat ++ ", generation: " ++
    toString (registry.generation card.key) ++ ", .. \x7d"

def define (session : Session) (script : List Call) (home length : Nat) : Created × Session :=
  let (key, world) := session.world.withRegistry fun registry => registry.defineAt home length
  let index := session.own.definitions.size
  let defined : Session := { session with world }
  ({ index, identity := world.registry.identity key, hash := world.registry.hash key },
    defined.withLedger fun ledger =>
      { ledger with
        definitions := ledger.definitions.push { key, script, listed := true, calls := 0 } })

def defineMany (script : List Call) (home length : Nat) :
    Nat → Session → List Created × Session
  | 0, session => ([], session)
  | count + 1, session =>
    let (first, defined) := session.define script home length
    let (others, finished) := defineMany script home length count defined
    (first :: others, finished)

/-- Creates a context and lists it. Its index is used up even if its configuration
is rejected. -/
def addContext (session : Session) (config : Option Config) (data : Datum) :
    Result × Session :=
  let listContext (key : ContextKey) (listed : Bool) (session : Session) : Session :=
    session.withLedger fun ledger =>
      { ledger with contexts := ledger.contexts.push { key, data, listed } }
  match session.world.addContext (config.getD Config.standard) with
  | .error error => (.rejected error, listContext 0 false session)
  | .ok (key, world) =>
    (.index session.own.contexts.size, listContext key true { session with world })

def findUse (session : Session) (around : Surroundings) (definition : Int)
    (context : ContextName) : Except Missing Use :=
  match session.own.context? around.context context with
  | none => .error .noContext
  | some (contextIndex, _) =>
    match session.own.definition? definition with
    | none => .error .noDefinition
    | some (definitionIndex, _) => .ok ⟨definitionIndex, contextIndex⟩

def accessed (session : Session) (use : Use) (reply : Reply) : Result :=
  let place := session.place use
  .accessed reply (session.world.registry.generation place.definition)
    (session.view place.context)

def access (session : Session) (around : Surroundings) (definition : Int)
    (context : ContextName) (act : Use → Session → Result × Session) : Result × Session :=
  match session.findUse around definition context with
  | .error missing => (.missing missing, session)
  | .ok use => act use session

def inContext (session : Session) (around : Surroundings) (context : ContextName)
    (act : Nat × ContextCard → Result × Session) : Result × Session :=
  match session.own.context? around.context context with
  | none => (.missing .noContext, session)
  | some found => act found

/-- The listed context that a step takes out of the list; the surrounding one
cannot be named for that. -/
def takeContext (session : Session) (context : ContextName) :
    Option (Nat × ContextCard) × Session :=
  match session.own.context? none context with
  | none => (none, session)
  | some (index, card) =>
    (some (index, card), session.withLedger fun ledger => ledger.unlistContext index)

/-- Takes a context out of the list and unwraps its data, unless a read uses it. -/
def unwrap (session : Session) (context : ContextName) : Result × Session :=
  match session.takeContext context with
  | (none, kept) => (.missing .contextNotAvailable, kept)
  | (some (index, card), taken) =>
    if taken.own.usesContext index then (.missing .contextNotAvailable, taken)
    else (.unwrapped card.data, taken)

/-- Takes a definition out of the list. It dies at once unless a read uses it. -/
def dropDefinition (session : Session) (definition : Int) : Result × Session :=
  match session.own.definition? definition with
  | none => (.dropped false, session)
  | some (index, _) =>
    (.dropped true,
      (session.withLedger fun ledger => ledger.unlistDefinition index).buryDefinition index)

/-- What a step does, up to its line in the log. -/
def execute (computer : Computer) (around : Surroundings) (step : Step) (session : Session) :
    Result × Session :=
  match step with
  | .context config data => session.addContext config data
  | .definition script home length =>
    let (created, defined) := session.define script home length
    (.created created, defined)
  | .definitions count script home length =>
    let (created, defined) := defineMany script home length count session
    (.createdAll created, defined)
  | .allocate value =>
    let (_, holdings) := session.own.holdings.allocateShared value
    (.index session.own.holdings.shared.size,
      session.withLedger fun ledger => { ledger with holdings })
  | .get definition context save =>
    session.access around definition context fun use session =>
      let (answer, finished) := session.readHeld computer use
      (finished.accessed use (finished.reply answer), (finished.save save answer).letGo use)
  | .remove definition context =>
    session.access around definition context fun use session =>
      let removed := { session with world := session.world.remove (session.place use) }
      (removed.accessed use .nothing, removed)
  | .put definition context source =>
    session.access around definition context fun use session =>
      let (allocation, ledger) := session.own.source source
      let world := session.world.put (session.place use) allocation
      let bound : Session := { world, own := ledger }
      (bound.accessed use .nothing, bound)
  | .state context =>
    session.inContext around context fun (_, card) => (.viewed (session.view card.key), session)
  | .snapshot context =>
    session.inContext around context fun (_, card) =>
      (.inspected (session.world.snapshot card.key), session)
  | .data context =>
    session.inContext around context fun (_, card) =>
      (.data card.data (session.world.context card.key).config, session)
  | .unwrap context => session.unwrap context
  | .info definition =>
    match session.own.definition? definition with
    | none => (.missing .noDefinition, session)
    | some (_, card) =>
      let registry := session.world.registry
      (.info (registry.generation card.key) (registry.hash card.key)
        (registry.identity card.key) card.calls, session)
  | .dropDefinition definition => session.dropDefinition definition
  | .dropContext context =>
    let (taken, remaining) := session.takeContext context
    (.dropped taken.isSome, remaining)
  | .debug definition context =>
    session.inContext around context fun (_, card) =>
      (.debugTexts (session.contextText card)
        ((session.own.definition? definition).map fun found =>
          session.definitionText found.2), session)
  | .metrics => (.metrics session.world.metrics, session)

def perform (computer : Computer) (around : Surroundings) (session : Session) (step : Step) :
    Session :=
  let (result, finished) := session.execute computer around step
  finished.log { depth := around.depth, step, result }

/-- Reads definitions in a context one after the other and adds up those of their
values that are numbers. The first failure ends the reading. -/
def sumOf (computer : Computer) (context : Nat) :
    List Int → Int → Session → Except Failure Int × Session
  | [], total, session => (.ok total, session)
  | definition :: rest, total, session =>
    match session.own.definition? definition with
    | none => (.error (.error Missing.noDefinition.message), session)
    | some (index, _) =>
      let use : Use := ⟨index, context⟩
      let (answer, finished) := session.readHeld computer use
      let remaining := finished.letGo use
      match answer with
      | .error failure => (.error failure, remaining)
      | .ok allocation =>
        let value := finished.own.holdings.content allocation
        sumOf computer context rest (total + value.number?.getD 0) remaining

def endWith (session : Session) (value : Datum) : Except Failure Allocation × Session :=
  let (allocation, ledger) := session.own.allocate value
  (.ok allocation, { session with own := ledger })

/-- How a call ends, once its steps are done. -/
def conclude (computer : Computer) (definition context number : Nat) (ending : Ending)
    (session : Session) : Except Failure Allocation × Session :=
  match ending with
  | .fail message => (.error (.error message), session)
  | .panic message => (.error (.panic message), session)
  | .value value => session.endWith value
  | .contextData =>
    session.endWith (((session.own.contexts[context]?).map ContextCard.data).getD .null)
  | .sum definitions plus =>
    match sumOf computer context definitions plus session with
    | (.error failure, read) => (.error failure, read)
    | (.ok total, read) => read.endWith (.number total)
  | .count => session.endWith (.number (1000 * definition + number))

/-- What a computation does with `allowance` more levels of nesting. -/
def computerAt : Nat → Computer
  | 0, definition, _, session =>
    let (_, ledger) := session.own.countCall definition
    let message := if callLimit < ledger.calls then "budget" else "depth"
    (.error (.error message), { session with own := ledger })
  | allowance + 1, definition, context, session =>
    let (number, ledger) := session.own.countCall definition
    let counted : Session := { session with own := ledger }
    if callLimit < ledger.calls then
      (.error (.error "budget"), counted)
    else
      let script := ((ledger.definitions[definition]?).map DefinitionCard.script).getD []
      let call := scriptedCall script number
      let around : Surroundings := { depth := depthLimit - allowance, context := some context }
      let stepped := call.steps.foldl (perform (computerAt allowance) around) counted
      stepped.conclude (computerAt allowance) definition context number call.ending

end Session

def run (showsSlots : Bool) (steps : List Step) : Session :=
  steps.foldl (Session.perform (Session.computerAt depthLimit) { depth := 0, context := none })
    { world := World.initial, own := Ledger.initial showsSlots }

end ContextCache.Scenario

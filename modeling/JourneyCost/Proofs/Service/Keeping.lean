import JourneyCost.Proofs.Service.Operations

/-!
# What a planner keeps

A planner keeps the settings that it was made with.  Two runs that differ in such settings, and only
while there is a planner, are told apart by health reports alone: the other answers and the calls
for them are the same.
-/

namespace JourneyCost

/-- Settings agree in all that is read anew for each request.  The others, which a planner keeps,
are the map service with its addresses, keys, radius and time limits, the toll threshold, and the
region and the price that fuel falls back on. -/
structure Settings.ReadAlike (left right : Settings) : Prop where
  /-- For how long places are kept. -/
  placeRetention : left.placeRetention = right.placeRetention
  /-- The toll data set. -/
  tollPath : left.tollPath = right.tollPath
  /-- The fuel data set. -/
  fuelPath : left.fuelPath = right.fuelPath
  /-- The kind of fuel that health reports count. -/
  fuelKind : left.fuelKind = right.fuelKind

theorem Settings.ReadAlike.symm {left right : Settings} (alike : left.ReadAlike right) :
    right.ReadAlike left :=
  ⟨alike.placeRetention.symm, alike.tollPath.symm, alike.fuelPath.symm, alike.fuelKind.symm⟩

theorem Settings.ReadAlike.trans {left between right : Settings} (first : left.ReadAlike between)
    (second : between.ReadAlike right) : left.ReadAlike right :=
  ⟨first.placeRetention.trans second.placeRetention, first.tollPath.trans second.tollPath,
    first.fuelPath.trans second.fuelPath, first.fuelKind.trans second.fuelKind⟩

namespace Service.Server

open Data Net Trip
open Work (Respects Within)

/-- Two runs differ in changes of what a planner keeps, made while there is one, and in nothing
else.  Where a planner is dropped, the settings are the same again, for the next one is made under
them. -/
inductive Differ : Server → Server → List Operation → List Operation → Prop
  /-- The runs end. -/
  | done {left right : Server} : Differ left right [] []
  /-- Both go on with the same operation. -/
  | same {left right : Server} {operation : Operation} {operations others : List Operation} :
      (operation = .reset → left.settings = right.settings) →
      Differ (left.perform operation) (right.perform operation) operations others →
      Differ left right (operation :: operations) (operation :: others)
  /-- Each makes a change of its own. -/
  | both {left right : Server} {mine theirs : Settings} {operations others : List Operation} :
      left.planner ≠ none → right.planner ≠ none → mine.ReadAlike theirs →
      Differ (left.configure mine) (right.configure theirs) operations others →
      Differ left right (.configure mine :: operations) (.configure theirs :: others)
  /-- Only one makes a change. -/
  | first {left right : Server} {mine : Settings} {operations others : List Operation} :
      left.planner ≠ none → mine.ReadAlike left.settings →
      Differ (left.configure mine) right operations others →
      Differ left right (.configure mine :: operations) others
  /-- Only the other does. -/
  | second {left right : Server} {theirs : Settings} {operations others : List Operation} :
      right.planner ≠ none → theirs.ReadAlike right.settings →
      Differ left (right.configure theirs) operations others →
      Differ left right operations (.configure theirs :: others)

/-- Servers with one planner that agree in all that it does not keep. -/
structure Kindred (left right : Server) : Prop where
  /-- The settings agree in what is read anew. -/
  settings : left.settings.ReadAlike right.settings
  /-- The files are the same. -/
  files : left.files = right.files
  /-- So is the desk. -/
  desk : left.desk = right.desk
  /-- So is the planner. -/
  planner : left.planner = right.planner
  /-- Without a planner all settings are the same. -/
  unplanned : left.planner = none → left.settings = right.settings
  /-- Places are kept as the settings say. -/
  keeps : left.desk.wire.keeps = (0 < left.settings.placeRetention : Bool)

variable {left right server : Server} {settings other : Settings}
  {operations others : List Operation} {message : Message} {planner : Planner} {α : Type}

/-- It stays as it was whether places are kept. -/
def SameKeeping (before after : Desk) : Prop := after.wire.keeps = before.wire.keeps

instance : Trans SameKeeping SameKeeping SameKeeping := ⟨fun first second => second.trans first⟩

theorem sameKeeping_resolve (client : Map.Client) (origin destination : Endpoint) :
    Within SameKeeping (Desk.onWire (Route.resolve client origin destination)) := fun desk =>
  (Route.respects_resolve client (.inl trivial) desk.wire desk.wire (.refl desk.wire)).2.first

theorem sameKeeping_fuelFor (sources : Sources) (request : Request) (route : Route) :
    Within SameKeeping (fuelFor planner sources request route) :=
  fun desk => congrArg Wire.keeps (keepsWire_fuelFor route desk)

theorem sameKeeping_compute (sources : Sources) (request : Request) :
    Within SameKeeping (compute planner sources request) := by
  refine Within.bind (fun desk => rfl) fun _ => ?_
  refine Within.bind (fun desk => rfl) fun ends => ?_
  refine (sameKeeping_resolve _ _ _).bind fun route => ?_
  refine Within.bind ?_ fun tolls => ?_
  · exact Within.bind (fun desk => rfl) fun plazas desk => rfl
  refine (sameKeeping_fuelFor sources request route).bind fun fuel => ?_
  exact Within.bind (fun desk => rfl) fun expenses desk => rfl

theorem sameKeeping_estimate (sources : Sources) (request : Request) :
    Within SameKeeping (planner.estimate sources request) := by
  intro desk
  have computed : SameKeeping desk ((compute planner sources request).run desk).2 :=
    sameKeeping_compute sources request desk
  rw [Planner.estimate, Work.run_tryCatch]
  rcases ran : (compute planner sources request).run desk with ⟨fault | estimate, after⟩
  · rwa [ran] at computed
  · rwa [ran] at computed

theorem Kindred.sources (kindred : Kindred left right) : left.sources = right.sources := by
  rw [Server.sources, Server.sources, kindred.files, kindred.settings.tollPath,
    kindred.settings.fuelPath]

theorem Kindred.plannerInForce (kindred : Kindred left right) :
    left.plannerInForce = right.plannerInForce := by
  unfold Server.plannerInForce
  rw [← kindred.planner]
  cases none : left.planner with
  | some planner => rfl
  | none => rw [kindred.unplanned none]

theorem kindred_answerRequest (request : Request) : Respects Kindred (answerRequest request) := by
  intro left right kindred
  rw [run_answerRequest, run_answerRequest, ← kindred.plannerInForce]
  cases left.plannerInForce with
  | error fault => exact ⟨rfl, kindred⟩
  | ok planner =>
      simp only [← kindred.sources, ← kindred.desk]
      refine ⟨trivial, kindred.settings, kindred.files, ?_, rfl, nofun, ?_⟩
      · simp only [desk_afterEstimate, ← kindred.sources, ← kindred.desk]
      · exact (sameKeeping_estimate _ _ _).trans kindred.keeps

theorem kindred_answerTrip (message : Message) : Respects Kindred (answerTrip message) := by
  refine Work.respects_ofExcept_bind fun payload _ => ?_
  cases payload with
  | object fields =>
      refine Work.respects_ofExcept_bind fun checked _ => ?_
      cases checked with
      | flawed flaws => exact Work.respects_pure _
      | fine request => exact kindred_answerRequest request
  | noDocument | noObject | refused => exact Work.respects_pure _

/-- Only a report on health tells kindred servers apart. -/
theorem kindred_answer (elsewhere : message.asksHealth = false) :
    Respects Kindred (answer message) := by
  refine Work.respects_ofExcept_bind fun content _ => ?_
  rw [Message.asksHealth] at elsewhere
  rw [answerPath, elsewhere, if_neg Bool.false_ne_true]
  split
  · split
    · exact kindred_answerTrip message
    · exact Work.respects_pure _
  · exact Work.respects_pure _

/-- The settings that a planner keeps make a difference in the report alone. -/
theorem state_healthUnder (alike : settings.ReadAlike other) (files : Files) (server : Server) :
    ((healthUnder settings files).run server).2 = ((healthUnder other files).run server).2 := by
  rw [healthUnder, healthUnder, alike.tollPath, alike.fuelPath, alike.fuelKind]
  refine Work.state_bind_congr (fun plazas server => ?_) server
  refine Work.state_bind_congr (fun prices server => ?_) server
  rfl

theorem kindred_onLibrary (work : Work Library α) :
    Respects Kindred (onDesk (Desk.onLibrary work)) := by
  intro left right kindred
  have outcome : (work.run left.desk.library).1 = (work.run right.desk.library).1 := by
    rw [kindred.desk]
  refine ⟨outcome, kindred.settings, kindred.files, ?_, kindred.planner, kindred.unplanned,
    kindred.keeps⟩
  rw [run_onDesk, run_onDesk, kindred.desk]

theorem kindred_healthUnder (settings : Settings) (files : Files) :
    Respects Kindred (healthUnder settings files) :=
  (kindred_onLibrary _).bind fun _ => (kindred_onLibrary _).bind fun _ => Work.respects_pure _

theorem Kindred.afterHealth (kindred : Kindred left right) :
    Kindred (answerHealth.run left).2 (answerHealth.run right).2 := by
  rw [run_answerHealth, run_answerHealth, state_healthUnder kindred.settings, kindred.files]
  exact (kindred_healthUnder right.settings right.files left right kindred).2

theorem Kindred.refl
    (keeps : server.desk.wire.keeps = (0 < server.settings.placeRetention : Bool)) :
    Kindred server server :=
  ⟨⟨rfl, rfl, rfl, rfl⟩, rfl, rfl, rfl, fun _ => rfl, keeps⟩

theorem Kindred.symm (kindred : Kindred left right) : Kindred right left where
  settings := kindred.settings.symm
  files := kindred.files.symm
  desk := kindred.desk.symm
  planner := kindred.planner.symm
  unplanned none := (kindred.unplanned (kindred.planner.trans none)).symm
  keeps := by rw [← kindred.desk, kindred.keeps, kindred.settings.placeRetention]

/-- A request of any kind leaves kindred servers. -/
theorem Kindred.afterAnswer (kindred : Kindred left right) (message : Message) :
    Kindred ((answer message).run left).2 ((answer message).run right).2 := by
  cases asked : message.asksHealth with
  | false => exact (kindred_answer asked left right kindred).2
  | true =>
      rw [answer, Work.run_bind, Work.run_bind, Work.run_ofExcept, Work.run_ofExcept]
      cases message.content with
      | error fault => exact kindred
      | ok content =>
          rw [Message.asksHealth] at asked
          simp only [answerPath, asked, if_true]
          split
          · exact kindred.afterHealth
          · exact kindred

/-- While there is a planner, what it keeps can be changed. -/
theorem Kindred.configure (kindred : Kindred left right) (planned : left.planner ≠ none)
    (alike : settings.ReadAlike other) :
    Kindred (left.configure settings) (right.configure other) where
  settings := alike
  files := kindred.files
  desk := by
    simp only [Server.configure, kindred.desk, alike.placeRetention]
  planner := kindred.planner
  unplanned none := absurd none planned
  keeps := rfl

/-- To change settings to what they are is to change nothing. -/
theorem configure_self
    (keeps : server.desk.wire.keeps = (0 < server.settings.placeRetention : Bool)) :
    server.configure server.settings = server := by
  rw [Server.configure, ← keeps]

theorem Kindred.configureFirst (kindred : Kindred left right) (planned : left.planner ≠ none)
    (alike : settings.ReadAlike left.settings) : Kindred (left.configure settings) right := by
  have changed := kindred.configure planned (alike.trans kindred.settings)
  rwa [configure_self kindred.symm.keeps] at changed

theorem Kindred.configureSecond (kindred : Kindred left right) (planned : right.planner ≠ none)
    (alike : settings.ReadAlike right.settings) : Kindred left (right.configure settings) :=
  (kindred.symm.configureFirst planned alike).symm

theorem Kindred.perform (kindred : Kindred left right) (operation : Operation)
    (reset : operation = .reset → left.settings = right.settings) :
    Kindred (left.perform operation) (right.perform operation) ∧
      left.gives operation = right.gives operation := by
  cases operation with
  | request message =>
      refine ⟨kindred.afterAnswer message, ?_⟩
      rw [gives, gives]
      cases asked : message.asksHealth with
      | false => rw [(kindred_answer asked left right kindred).1]
      | true => rfl
  | configure settings =>
      refine ⟨⟨⟨rfl, rfl, rfl, rfl⟩, kindred.files, ?_, kindred.planner, fun _ => rfl, rfl⟩, rfl⟩
      simp only [Server.perform, Server.configure, kindred.desk]
  | archive event =>
      refine ⟨⟨kindred.settings, ?_, ?_, kindred.planner, kindred.unplanned, kindred.keeps⟩, rfl⟩
      · simp only [Server.perform, kindred.files, kindred.desk]
      · simp only [Server.perform, kindred.files, kindred.desk]
  | forgetPlaces =>
      refine ⟨⟨kindred.settings, kindred.files, ?_, kindred.planner, kindred.unplanned,
        kindred.keeps⟩, rfl⟩
      simp only [Server.perform, Server.forgetPlaces, kindred.desk]
  | reset => exact ⟨⟨kindred.settings, kindred.files, kindred.desk, rfl, fun _ => reset rfl,
      kindred.keeps⟩, rfl⟩

theorem Differ.sound (differ : Differ left right operations others) (kindred : Kindred left right) :
    left.answers operations = right.answers others ∧
      Kindred (left.through operations) (right.through others) := by
  induction differ with
  | done => exact ⟨rfl, kindred⟩
  | same reset _ induction =>
      obtain ⟨next, given⟩ := kindred.perform _ reset
      obtain ⟨answered, ended⟩ := induction next
      exact ⟨by rw [answers, answers, given, answered], ended⟩
  | both planned _ alike _ induction => exact induction (kindred.configure planned alike)
  | first planned alike _ induction => exact induction (kindred.configureFirst planned alike)
  | second planned alike _ induction => exact induction (kindred.configureSecond planned alike)

/-- From a fresh server on, two runs that differ only in changes of what a planner keeps, each made
while there is a planner, give the same answers to all requests but those for a report on health,
and the same calls are sent in both.  The settings must be the same again where the planner is
dropped, which a run without such a reset need not heed.  A planner is there from the first valid
request on for which one can be made under the settings in force, and from no other. -/
theorem planner_keeps_settings (settings : Settings) (files : Files) (replies : List Reply) :
    let server := start settings files replies
    (∀ operations others, Differ server server operations others →
      server.answers operations = server.answers others ∧
        (server.through operations).desk.wire.sent = (server.through others).desk.wire.sent) ∧
      ∀ before operations, (server.through before).planner = none → .reset ∉ operations →
        ∀ planner, (server.through (before ++ operations)).planner = some planner ↔
          Makes (server.through before) operations planner := by
  intro server
  refine ⟨fun operations others differ => ?_, fun before operations unplanned kept planner => ?_⟩
  -- A fresh server keeps places as its settings say, and so it is its own kin.
  · obtain ⟨answered, kindred⟩ := differ.sound (.refl rfl)
    exact ⟨answered, by rw [kindred.desk]⟩
  · rw [through, List.foldl_append]
    exact planner_through_iff unplanned kept

/-- A planner is made for the second request, once the map service has a name that is known.
Another service that is chosen then is not asked. -/
theorem planner_keeps_settings_renamed :
    let server := start { provider := "none" } .empty []
    let post : Operation := .request (journeyPost "15")
    let operations : List Operation :=
      [post, .configure {}, post, .configure { provider := "ors" }, post]
    let others : List Operation := [post, .configure {}, post, .configure {}, post]
    server.answers operations = server.answers others ∧
      (server.through operations).desk.wire.sent = (server.through others).desk.wire.sent ∧
      ∃ planner, Planner.create {} = .ok planner ∧
        (server.through operations).planner = some planner := by
  intro server post operations others
  obtain ⟨same, made⟩ := planner_keeps_settings { provider := "none" } .empty []
  obtain ⟨planner, created⟩ : ∃ planner, Planner.create {} = .ok planner := ⟨_, rfl⟩
  have unknown : (Planner.create server.settings).toOption.isSome = false := by decide +kernel
  have makes (rest : List Operation) :
      Makes server (post :: .configure {} :: post :: rest) planner := by
    refine .later ?_ (.later nofun (.now ⟨exists_requests_journey, created⟩))
    rintro message impossible - ⟨-, possible⟩
    rw [possible] at unknown
    cases unknown
  have planned : (server.through [post, .configure {}, post]).planner ≠ none := by
    have early := (made [] [post, .configure {}, post] rfl (by simp [post]) planner).mpr (makes [])
    rw [List.nil_append] at early
    rw [early]
    nofun
  have differ : Differ server server operations others :=
    .same nofun (.same nofun (.same nofun (.both planned planned ⟨rfl, rfl, rfl, rfl⟩
      (.same nofun .done))))
  obtain ⟨answered, sent⟩ := same operations others differ
  have kept : Operation.reset ∉ operations := by simp [operations, post]
  exact ⟨answered, sent, planner, created, (made [] operations rfl kept planner).mpr (makes _)⟩

end Service.Server

end JourneyCost

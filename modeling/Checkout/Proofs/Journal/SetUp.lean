import Checkout.Proofs.Journal.Hierarchy

/-!
# Setting the shop's logger up again

Only the shop's own logger is ever set up.  All others have neither a level nor a handler, but for
the topmost, which has its level from the start, so a logger below the shop's asks for the level of
the shop's and hands its records to the handlers of the shop's.  Whether it takes records of some
rank is decided once, but a decision is never out of date: nothing is decided any more when a level
is set, and no other step changes a level.
-/

namespace Checkout.Journal

namespace Loggers

variable (loggers : Loggers)

/-! ## Calls -/

@[simp]
theorem state_meet (name other : String) :
    (loggers.meet name).state other = loggers.state other := by
  rw [meet, state, Entries.get?_put]
  split
  · rename_i same
    rw [same]
    rfl
  · rfl

@[simp]
theorem state_clear (name other : String) (threshold : Threshold) :
    (loggers.clear name threshold).state other =
      if name = other then { threshold, handlers := [] } else loggers.state other := by
  rw [clear, state, Entries.get?_put]
  split <;> rfl

@[simp]
theorem state_attach (name other : String) (handler : Handler) :
    (loggers.attach name handler).state other =
      if name = other then
        { loggers.state other with handlers := (loggers.state other).handlers ++ [handler] }
      else loggers.state other := by
  rw [attach, state, Entries.get?_put]
  split
  · rename_i same
    rw [same]
    rfl
  · rfl

variable {loggers : Loggers} {name : String} {standardError : Stream} {call : Call}

/-- A call without a level fails, and all loggers keep their levels and handlers. -/
theorem setUp_of_noLevel {fault : Fault} (noLevel : Threshold.ofName call.level = .error fault) :
    loggers.setUp name standardError call = (loggers.meet (canonical name), .error fault) := by
  rw [setUp, noLevel]

/-- A call that fails for its stream has set the level, and leaves no handler. -/
theorem setUp_of_noStyle {threshold : Threshold} {fault : Fault}
    (isLevel : Threshold.ofName call.level = .ok threshold)
    (noStyle : call.style standardError = .error fault) :
    loggers.setUp name standardError call =
      ((loggers.meet (canonical name)).clear (canonical name) threshold, .error fault) := by
  rw [setUp, isLevel]
  dsimp only
  rw [noStyle]

theorem setUp_of_style {threshold : Threshold} {style : Style}
    (isLevel : Threshold.ofName call.level = .ok threshold)
    (isStyle : call.style standardError = .ok style) :
    loggers.setUp name standardError call =
      (((loggers.meet (canonical name)).clear (canonical name) threshold).attach (canonical name)
        ⟨threshold, (call.stream standardError).name, style⟩, .ok ()) := by
  rw [setUp, isLevel]
  dsimp only
  rw [isStyle]

/-- A call that goes well leaves one handler, whatever there was. -/
theorem state_setUp_of_style {threshold : Threshold} {style : Style}
    (isLevel : Threshold.ofName call.level = .ok threshold)
    (isStyle : call.style standardError = .ok style) :
    (loggers.setUp name standardError call).1.state (canonical name) =
      ⟨threshold, [⟨threshold, (call.stream standardError).name, style⟩]⟩ := by
  rw [setUp_of_style isLevel isStyle]
  simp

/-- A call is about one logger. -/
theorem state_setUp_of_ne {other : String} (different : canonical name ≠ other) :
    (loggers.setUp name standardError call).1.state other = loggers.state other := by
  cases isLevel : Threshold.ofName call.level with
  | error fault => rw [setUp_of_noLevel isLevel, state_meet]
  | ok threshold =>
    cases isStyle : call.style standardError with
    | error fault => simp [setUp_of_noStyle isLevel isStyle, different]
    | ok style => simp [setUp_of_style isLevel isStyle, different]

theorem decided_setUp_of_level {threshold : Threshold}
    (isLevel : Threshold.ofName call.level = .ok threshold) :
    (loggers.setUp name standardError call).1.decided = [] := by
  cases isStyle : call.style standardError with
  | error fault =>
    rw [setUp_of_noStyle isLevel isStyle]
    rfl
  | ok style =>
    rw [setUp_of_style isLevel isStyle]
    rfl

/-! ## What holds whenever only the shop's logger is set up -/

/-- The level in force at the shop's logger: its own, or that of the topmost. -/
def inForce (loggers : Loggers) : Threshold :=
  if (loggers.state shopLogger).threshold = 0 then Level.warning.rank
  else (loggers.state shopLogger).threshold

theorem inForce_pos (loggers : Loggers) : 0 < loggers.inForce := by
  rw [inForce]
  split
  · decide
  · exact Nat.pos_of_ne_zero ‹_›

/-- A logger that is not known was never set up. -/
theorem state_of_not_isKnown (unknown : ¬loggers.isKnown shopLogger = true) :
    loggers.state shopLogger = ⟨0, []⟩ := by
  rw [isKnown, Entries.has, Bool.not_eq_true, Option.isSome_eq_false_iff,
    Option.isNone_iff_eq_none] at unknown
  rw [state, unknown]
  rfl

/-- No logger but the shop's has been set up, and what is decided for the shop's and those below it
agrees with the level in force. -/
structure Quiet (loggers : Loggers) : Prop where
  others : ∀ name, name ≠ shopLogger →
    loggers.state name = ⟨if name.isEmpty then Level.warning.rank else 0, []⟩
  decided : ∀ name rank taken, IsShops name → loggers.decided.lookup (name, rank) = some taken →
    taken = decide (loggers.inForce ≤ rank)

theorem quiet_empty : Quiet {} where
  others _ _ := rfl
  decided _ _ _ _ found := by cases found

namespace Quiet

variable (quiet : Quiet loggers)

include quiet

theorem state_of_isBelow (below : IsBelow name) : loggers.state name = ⟨0, []⟩ := by
  rw [quiet.others name below.ne, below.isEmpty_eq_false]
  rfl

theorem state_top : loggers.state "" = ⟨Level.warning.rank, []⟩ :=
  quiet.others "" (by decide)

/-- Records are handed on to the handlers of the shop's logger alone. -/
theorem handlersOf_eq (isShops : IsShops name) :
    loggers.handlersOf name = (loggers.state shopLogger).handlers := by
  obtain ⟨front, chain, between⟩ := loggers.chain_of_isShops isShops
  have none : front.flatMap (fun other => (loggers.state other).handlers) = [] := by
    refine List.flatMap_eq_nil_iff.mpr fun other isOther => ?_
    rw [quiet.state_of_isBelow (between other isOther)]
  rw [handlersOf, chain, List.flatMap_append, none, List.nil_append]
  split
  · simp [quiet.state_top]
  · rename_i unknown
    rw [state_of_not_isKnown (not_or.mp unknown).2]
    simp [quiet.state_top]

/-- The level in force at a logger below the shop's is that at the shop's. -/
theorem effective_eq (isShops : IsShops name) : loggers.effective name = loggers.inForce := by
  obtain ⟨front, chain, between⟩ := loggers.chain_of_isShops isShops
  have none : front.findSome? (fun other =>
      let threshold := (loggers.state other).threshold
      if threshold = 0 then none else some threshold) = none := by
    refine List.findSome?_eq_none_iff.mpr fun other isOther => ?_
    rw [quiet.state_of_isBelow (between other isOther)]
    rfl
  rw [effective, chain, List.findSome?_append, none, Option.none_or, inForce]
  split
  · rw [List.findSome?_cons]
    by_cases noLevel : (loggers.state shopLogger).threshold = 0
    · simp [noLevel, quiet.state_top, Level.rank]
    · simp [noLevel]
  · rename_i unknown
    rw [state_of_not_isKnown (not_or.mp unknown).2]
    simp [quiet.state_top, Level.rank]

/-- What has been decided is what would be decided now. -/
theorem takes_eq (isShops : IsShops name) (rank : Nat) :
    loggers.takes name rank = decide (loggers.inForce ≤ rank) := by
  have decided : (loggers.decided.lookup (name, rank)).getD (decide (loggers.inForce ≤ rank)) =
      decide (loggers.inForce ≤ rank) := by
    cases found : loggers.decided.lookup (name, rank) with
    | none => rfl
    | some taken => exact quiet.decided name rank taken isShops found
  rw [takes, quiet.effective_eq isShops, decided]
  by_cases unranked : rank = 0
  · have positive := inForce_pos loggers
    simp [unranked, Nat.ne_of_gt positive]
  · simp [unranked]

end Quiet

/-! ## Steps -/

theorem inForce_meet (loggers : Loggers) (name : String) :
    (loggers.meet name).inForce = loggers.inForce := by
  rw [inForce, inForce, state_meet]

theorem Quiet.meet (quiet : Quiet loggers) (name : String) : Quiet (loggers.meet name) where
  others other notShop := by
    rw [state_meet]
    exact quiet.others other notShop
  decided other rank taken isShops found := by
    rw [inForce_meet]
    exact quiet.decided other rank taken isShops found

theorem state_asked (loggers : Loggers) (name other : String) (rank : Nat) :
    (loggers.asked name rank).state other = loggers.state other :=
  state_meet loggers name other

theorem inForce_asked (loggers : Loggers) (name : String) (rank : Nat) :
    (loggers.asked name rank).inForce = loggers.inForce :=
  inForce_meet loggers name

theorem Quiet.asked (quiet : Quiet loggers) (name : String) (rank : Nat) :
    Quiet (loggers.asked name rank) where
  others := (quiet.meet name).others
  decided other otherRank taken isShops found := by
    rw [inForce_asked]
    rw [Loggers.asked, List.lookup_cons] at found
    split at found
    · rename_i same
      obtain ⟨rfl, rfl⟩ := Prod.ext_iff.mp (beq_iff_eq.mp same)
      rw [(quiet.meet _).takes_eq isShops, inForce_meet, Option.some.injEq] at found
      exact found.symm
    · exact quiet.decided other otherRank taken isShops found

theorem canonical_shopLogger : canonical shopLogger = shopLogger := by
  decide

theorem Quiet.setUp (quiet : Quiet loggers) (standardError : Stream) (call : Call) :
    Quiet (loggers.setUp shopLogger standardError call).1 := by
  cases isLevel : Threshold.ofName call.level with
  | error fault =>
    rw [setUp_of_noLevel isLevel]
    exact quiet.meet _
  | ok threshold =>
    refine ⟨fun name notShop => ?_, fun name rank taken _ found => ?_⟩
    · have others : canonical shopLogger ≠ name := canonical_shopLogger ▸ Ne.symm notShop
      rw [state_setUp_of_ne others]
      exact quiet.others name notShop
    · rw [decided_setUp_of_level isLevel] at found
      cases found

/-! ## Runs -/

/-- What happens to the loggers. -/
inductive Event
  /-- The shop's logger is set up by a call. -/
  | setUp (standardError : Stream) (call : Call)
  /-- A logger is asked for by its name. -/
  | get (name : String)
  /-- A record of some rank comes to a logger. -/
  | log (name : String) (rank : Nat)

/-- The event is no call with a level. -/
def Event.SetsNothing : Event → Prop
  | .setUp _ call => ∃ fault, Threshold.ofName call.level = .error fault
  | _ => True

/-- The loggers after an event. -/
def after (loggers : Loggers) : Event → Loggers
  | .setUp standardError call => (loggers.setUp shopLogger standardError call).1
  | .get name => loggers.meet (loggerName name)
  | .log name rank => loggers.asked (loggerName name) rank

/-- The loggers after some events. -/
def run (loggers : Loggers) (events : List Event) : Loggers :=
  events.foldl after loggers

theorem Quiet.run (quiet : Quiet loggers) (events : List Event) : Quiet (loggers.run events) := by
  induction events generalizing loggers with
  | nil => exact quiet
  | cons event rest ih =>
    refine ih ?_
    cases event with
    | setUp standardError call => exact quiet.setUp standardError call
    | get name => exact quiet.meet _
    | log name rank => exact quiet.asked _ rank

theorem state_run_of_setsNothing {events : List Event}
    (nothing : ∀ event ∈ events, event.SetsNothing) (name : String) :
    (loggers.run events).state name = loggers.state name := by
  induction events generalizing loggers with
  | nil => rfl
  | cons event rest ih =>
    rw [List.forall_mem_cons] at nothing
    rw [run, List.foldl_cons]
    refine (ih nothing.2).trans ?_
    cases event with
    | setUp standardError call =>
      obtain ⟨fault, noLevel⟩ := nothing.1
      rw [after, setUp_of_noLevel noLevel, state_meet]
    | get other => exact state_meet _ _ _
    | log other rank => exact state_asked _ _ _ _

/-- A record of the shop's logger or one below it is written once, by the only handler of the
shop's, if it reaches the level. -/
theorem Quiet.deliver_eq (quiet : Quiet loggers) (isShops : IsShops name) (handler : Handler)
    (state : loggers.state shopLogger = ⟨handler.threshold, [handler]⟩)
    (isLevel : handler.threshold ≠ 0) (lastStream : String) (rank : Nat) (entry : Entry)
    (time : Style → String) :
    loggers.deliver lastStream name rank entry time =
      if handler.threshold ≤ rank then
        [(handler.stream, handler.style.write entry (time handler.style))]
      else [] := by
  have force : loggers.inForce = handler.threshold := by
    rw [inForce, state, if_neg isLevel]
  rw [deliver, reached, quiet.takes_eq isShops, quiet.handlersOf_eq isShops, state, force]
  by_cases reaches : handler.threshold ≤ rank
  · simp [reaches]
  · simp [reaches]

/-- The shop's logger may be set up again and again.  A call without a level fails and leaves all
loggers as they were.  A call whose stream can not tell whether it is a terminal fails too, when the
level is set and the handlers are gone.  Any other call goes well, and whatever comes behind it, up
to the next call with a level, there is one handler, with the level, the stream and the style of the
call.  If the level is one at all, records of the loggers that are asked for are written by this
handler once if they reach it, and else not at all.  Only loggers whose names begin with the shop's
and two dots may be missed. -/
theorem setUp_logs_once (before behind : List Event) (standardError : Stream) (call : Call) :
    let loggers := run {} before
    (∀ fault, Threshold.ofName call.level = .error fault →
      (loggers.setUp shopLogger standardError call).2 = .error fault ∧
        ∀ name, (loggers.setUp shopLogger standardError call).1.state name =
          loggers.state name) ∧
    (∀ threshold fault, Threshold.ofName call.level = .ok threshold →
      call.style standardError = .error fault →
      (loggers.setUp shopLogger standardError call).2 = .error fault ∧
        (loggers.setUp shopLogger standardError call).1.state shopLogger = ⟨threshold, []⟩) ∧
    ∀ threshold style, Threshold.ofName call.level = .ok threshold →
      call.style standardError = .ok style →
      (loggers.setUp shopLogger standardError call).2 = .ok () ∧
        ((∀ event ∈ behind, event.SetsNothing) →
          let stream := (call.stream standardError).name
          let later := run {} (before ++ .setUp standardError call :: behind)
          later.state shopLogger = ⟨threshold, [⟨threshold, stream, style⟩]⟩ ∧
            (threshold ≠ 0 → ∀ name rank entry time lastStream,
              ¬(shopLogger ++ "..").toList <+: (loggerName name).toList →
              (later.asked (loggerName name) rank).deliver lastStream (loggerName name) rank entry
                  time =
                if threshold ≤ rank then [(stream, style.write entry (time style))] else [])) := by
  intro loggers
  refine ⟨fun fault noLevel => ?_, fun threshold fault isLevel noStyle => ?_,
    fun threshold style isLevel isStyle => ⟨?_, fun nothing => ?_⟩⟩
  · rw [setUp_of_noLevel noLevel]
    exact ⟨rfl, fun name => state_meet _ _ _⟩
  · rw [setUp_of_noStyle isLevel noStyle, canonical_shopLogger]
    exact ⟨rfl, by rw [state_clear, if_pos rfl]⟩
  · rw [setUp_of_style isLevel isStyle]
  · intro stream later
    have quiet : Quiet later := quiet_empty.run _
    have state : later.state shopLogger = ⟨threshold, [⟨threshold, stream, style⟩]⟩ := by
      have divided : later = (loggers.setUp shopLogger standardError call).1.run behind :=
        List.foldl_append
      rw [divided, state_run_of_setsNothing nothing]
      exact state_setUp_of_style isLevel isStyle
    refine ⟨state, fun someLevel name rank entry time lastStream single => ?_⟩
    have asked : (later.asked (loggerName name) rank).state shopLogger =
        ⟨threshold, [⟨threshold, stream, style⟩]⟩ := by
      rw [state_asked, state]
    exact (quiet.asked _ rank).deliver_eq (isShops_loggerName single) ⟨threshold, stream, style⟩
      asked someLevel lastStream rank entry time

/-- A stream of a caller. -/
def tape : Stream where
  name := "tape"

/-- A call that goes well. -/
def tapeCall : Call where
  level := "debug"
  stream? := some tape

/-- An error without more than a message. -/
def lostEntry : Entry where
  template := .text "lost"
  attributes := [("levelname", .text "ERROR")]

/-- Behind a call without a level the call before it counts. -/
theorem setUp_logs_once_tape :
    ((run {} [.log "core" 40, .setUp tape tapeCall, .setUp tape { level := "loud" },
        .get "core"]).asked (loggerName "core") 40).deliver Journal.standardError
        (loggerName "core") 40 lostEntry (fun _ => "") = [("tape", .ok "ERROR: lost")] := by
  have isLevel : Threshold.ofName tapeCall.level = .ok 10 :=
    toOption_eq_some_iff.mp (by decide +kernel)
  have nothing : ∀ event ∈ [Event.setUp tape { level := "loud" }, .get "core"],
      event.SetsNothing := by
    have noLevel : (Threshold.ofName "loud").toOption = none := by decide +kernel
    have refused : ∃ fault, Threshold.ofName "loud" = .error fault := by
      cases outcome : Threshold.ofName "loud" with
      | error fault => exact ⟨fault, rfl⟩
      | ok threshold =>
        rw [outcome] at noLevel
        cases noLevel
    rw [List.forall_mem_cons, List.forall_mem_singleton]
    exact ⟨refused, trivial⟩
  have written : Style.plain.write lostEntry "" = .ok "ERROR: lost" :=
    toOption_eq_some_iff.mp (by decide +kernel)
  have laws := setUp_logs_once [.log "core" 40] [.setUp tape { level := "loud" }, .get "core"] tape
    tapeCall
  have delivered := ((laws.2.2 10 .plain isLevel rfl).2 nothing).2 (by decide) "core" 40 lostEntry
    (fun _ => "") Journal.standardError (by decide +kernel)
  rw [written] at delivered
  exact delivered

/-- A record of a logger whose name begins with a dot is not written to the stream, but as a last
resort to the standard error stream. -/
theorem setUp_misses_dot :
    (run {} [.setUp tape tapeCall]).state shopLogger = ⟨10, [⟨10, "tape", .plain⟩]⟩ ∧
      (((run {} [.setUp tape tapeCall]).asked (loggerName ".x") 40).reached Journal.standardError
        (loggerName ".x") 40).map Handler.stream = [Journal.standardError] := by
  decide +kernel

end Loggers

end Checkout.Journal

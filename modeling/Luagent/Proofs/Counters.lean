import Luagent.Server

/-! What a callback adds to the counters that `debug.stats` reports. -/

namespace Luagent.Proofs
open Foundation

/-- The counters of the transfers, the processes and the relays. -/
def isResource : Counter → Bool
  | .transferStarts | .transferCompletes | .transferAborts => true
  | .processSpawns | .processExits | .processTimeouts => true
  | .relayOpens | .relayCloses => true
  | _ => false

/-- What was counted between two states of a session, as far as resources go. All
that is counted for the session is counted for the agent too. -/
structure Counts (before : Link) (counted : List Counter) (after : Link) : Prop where
  session : ∀ counter, isResource counter = true →
    after.tally.session counter = before.tally.session counter + counted.count counter
  global : ∀ counter, after.tally.global counter + before.tally.session counter =
    before.tally.global counter + after.tally.session counter
  others : after.tally.others = before.tally.others

namespace Counts
variable {before middle after : Link} {early late : List Counter}

theorem of_tally (same : after.tally = before.tally) : Counts before [] after := by
  constructor
  · intro counter _
    rw [same, List.count_nil, Nat.add_zero]
  · intro counter
    rw [same]
  · rw [same]

theorem refl (link : Link) : Counts link [] link := of_tally rfl

theorem trans (first : Counts before early middle) (second : Counts middle late after) :
    Counts before (early ++ late) after := by
  constructor
  · intro counter resource
    rw [second.session counter resource, first.session counter resource, List.count_append, Nat.add_assoc]
  · intro counter
    have earlier := first.global counter
    have later := second.global counter
    omega
  · exact second.others.trans first.others

theorem quiet_first (first : Counts before [] middle) (second : Counts middle late after) : Counts before late after :=
  first.trans second

theorem quiet_last (first : Counts before early middle) (second : Counts middle [] after) : Counts before early after := by
  have both := first.trans second
  rwa [List.append_nil] at both

theorem one (link : Link) (counter : Counter) : Counts link [counter] (link.count counter) := by
  constructor
  · intro other _
    by_cases same : other = counter
    · simp [Link.count, Tally.add, same]
    · simp [Link.count, Tally.add, same, Ne.symm same]
  · intro other
    by_cases same : other = counter
    · simp only [Link.count, Tally.add, same, if_true]
      omega
    · simp only [Link.count, Tally.add, same, if_false]
  · rfl

/-- A counter that is not of a resource goes up. -/
theorem other (link : Link) {counter : Counter} (unrelated : isResource counter = false) (amount : Nat) :
    Counts link [] { link with tally := link.tally.add counter amount } := by
  constructor
  · intro other resource
    have different : other ≠ counter := by
      rintro rfl
      rw [unrelated] at resource
      cases resource
    simp [Tally.add, different]
  · intro other
    by_cases same : other = counter
    · simp only [Tally.add, same, if_true]
      omega
    · simp only [Tally.add, same, if_false]
  · rfl

theorem of_before {start : Link} {counted : List Counter} (counts : Counts before counted after)
    (same : before.tally = start.tally) : Counts start counted after :=
  (of_tally same).quiet_first counts

theorem absent {counted : List Counter} (counts : Counts before counted after) {counter : Counter}
    (resource : isResource counter = true) (other : counter ∉ counted) :
    after.tally.session counter = before.tally.session counter := by
  rw [counts.session counter resource, List.count_eq_zero_of_not_mem other, Nat.add_zero]

end Counts

theorem frameRx_counts (link : Link) (length : Nat) : Counts link [] (diagCountFrameRx link length) :=
  (Counts.other link rfl 1).quiet_first (.other _ rfl length)

private theorem frameTx_counts (link : Link) (length : Nat) : Counts link [] (diagCountFrameTx link length) :=
  (Counts.other link rfl 1).quiet_first (.other _ rfl length)

theorem parseFailure_counts (link : Link) : Counts link [] (diagCountParseFailure link) where
  session _ _ := by simp [diagCountParseFailure]
  global _ := rfl
  others := rfl

theorem sessionClose_counts (link : Link) : Counts link [] (sessionClose link) := by
  unfold sessionClose
  split
  · exact .refl link
  · exact (Counts.other link rfl 1).quiet_last (.of_tally rfl)

theorem sendFrame_counts (env : Env) (link : Link) (type : UInt8) (reqId : UInt32) (payload : Bytes) :
    Counts link [] (sessionSendFrame env link type reqId payload).1 := by
  unfold sessionSendFrame
  split
  · exact .refl link
  · split
    · exact sessionClose_counts link
    · simp only
      split
      · exact .of_tally rfl
      · split
        · exact .of_tally rfl
        · split
          · exact .of_tally rfl
          next header _ =>
            have sent : Counts link [] (diagCountFrameTx { link with sends := link.sends + 1 } (header ++ payload).length) :=
              (frameTx_counts _ _).of_before rfl
            split
            · apply sent.quiet_last
              exact .of_tally rfl
            · apply sent.quiet_last
              exact .of_tally rfl

theorem sendError_counts (env : Env) (link : Link) (reqId : UInt32) (code : String) (message : Bytes) :
    Counts link [] (sessionSendError env link reqId code message).1 := by
  unfold sessionSendError
  split
  · exact .refl link
  · exact sendFrame_counts ..

end Luagent.Proofs

import FeatureFlags.Proofs.SourceHealth

/-!
When a streaming data source ends. A final failure ends it, and so does the message that tells it to
stop, which may have to wait for a connection. A source that is closed is therefore at its end when
closing returns, however the connections come out until then.
-/
namespace FeatureFlags.Streaming

open Entry

variable {answers : Answers} {s : Streaming}

theorem phase_fail_eq_ended_iff (s : Streaming) (failure : Failure) :
    (s.fail failure).phase = .ended ↔ Fatal [.failed failure] := by
  rw [fatal_singleton_iff, fail]
  cases hrecoverable : failure.isRecoverable <;> simp [hrecoverable]

theorem phase_afterWrite_ne_ended (hphase : s.phase ≠ .ended) (replica : Replica) (written : Bool) :
    ({ s with replica }.afterWrite written).phase ≠ .ended := by
  unfold afterWrite
  split
  · exact hphase
  · exact Phase.noConfusion

/-- A write ends nothing, whether it is stored or not. -/
theorem phase_put_iff (hphase : s.phase ≠ .ended) (definitions : Definitions) :
    (s.put definitions).phase = .ended ↔ Fatal [s.replica.attempt (.all definitions)] := by
  refine iff_of_false ?_ (not_fatal_attempt _ _)
  exact phase_afterWrite_ne_ended hphase _ _

theorem phase_upsert_iff (hphase : s.phase ≠ .ended) (kind : Kind) (key : String)
    (descriptor : Descriptor) :
    (s.upsert kind key descriptor).phase = .ended ↔
      Fatal [s.replica.attempt (.item kind key descriptor)] := by
  refine iff_of_false ?_ (not_fatal_attempt _ _)
  exact phase_afterWrite_ne_ended hphase _ _

/-- An update ends a source only by a fetch that fails for good. -/
theorem phase_apply_eq_ended_iff (hphase : s.phase ≠ .ended) (update : Update) :
    (s.apply answers update).phase = .ended ↔ Fatal [s.updateEntry answers update] := by
  cases update with
  | put definitions => exact phase_put_iff hphase definitions
  | patch kind key descriptor => exact phase_upsert_iff hphase kind key descriptor
  | delete kind key version => exact phase_upsert_iff hphase kind key (.tombstone version)
  | fetchAll =>
    simp only [apply, updateEntry, Update.change]
    cases answers.all with
    | ok definitions => exact phase_put_iff (s := s.fetching .all) hphase definitions
    | error failure => exact phase_fail_eq_ended_iff (s.fetching .all) failure
  | fetchItem kind key =>
    simp only [apply, updateEntry, Update.change]
    cases answers.item key kind with
    | ok item => exact phase_upsert_iff (s := s.fetching (.item kind key)) hphase kind key _
    | error failure => exact phase_fail_eq_ended_iff (s.fetching (.item kind key)) failure

/-- A message ends a source if it tells it to stop, or enters a failure for good. -/
theorem phase_read_eq_ended_iff (hphase : s.phase ≠ .ended) (answers : Answers)
    (message : Message) :
    (s.read answers message).phase = .ended ↔
      message = .stop ∨ Fatal (s.readEntries answers message) := by
  cases message with
  | event c e =>
    simp only [read, readEntries, handle, reduceCtorEq, false_or]
    cases s.isCurrent c with
    | false => exact iff_of_false hphase not_fatal_nil
    | true =>
      cases Update.ofEvent e with
      | error failure => exact phase_fail_eq_ended_iff s failure
      | ok update =>
        cases update with
        | none => exact iff_of_false hphase not_fatal_nil
        | some update => exact phase_apply_eq_ended_iff hphase update
  | heartbeat c => simpa [read, readEntries, not_fatal_nil] using hphase
  | closed c failure =>
    simp only [read, readEntries, reduceCtorEq, false_or]
    cases s.isCurrent c with
    | false => exact iff_of_false hphase not_fatal_nil
    | true => exact phase_fail_eq_ended_iff s _
  | storeStatus status =>
    simp only [read, readEntries, reduceCtorEq, false_or]
    refine iff_of_false ?_ not_fatal_nil
    split
    · exact Phase.noConfusion
    · exact hphase
  | stop => exact iff_of_true rfl (Or.inl rfl)

theorem receive_of_ended (hphase : s.phase = .ended) (message : Message) :
    s.receive answers message = s := by
  unfold receive
  rw [hphase]

/-- Nothing reaches a source that has ended. -/
theorem waiting_of_ended (hphase : s.phase = .ended) (messages : List Message) :
    messages.foldl (receive answers) s = s := by
  induction messages with
  | nil => rfl
  | cons message rest ih => rw [List.foldl_cons, receive_of_ended hphase, ih]

/-- A message ends a source exactly if it stops it or brings a final failure. -/
theorem phase_receive_eq_ended_iff (message : Message) :
    (s.receive answers message).phase = .ended ↔
      s.phase = .ended ∨ (message = .stop ∧ s.phase ≠ .connecting) ∨
        Fatal (s.messageEntries answers message) := by
  unfold receive messageEntries
  cases hphase : s.phase with
  | connecting => simp [not_fatal_nil]
  | connected =>
    have hrunning : s.phase ≠ .ended := by simp [hphase]
    simpa using phase_read_eq_ended_iff hrunning answers message
  | delayed => cases message <;> simp [hphase, not_fatal_nil]
  | ended => simp [hphase]

theorem waiting_of_connecting (hphase : s.phase = .connecting) (messages : List Message) :
    messages.foldl (receive answers) s = { s with inbox := s.inbox ++ messages } := by
  induction messages generalizing s with
  | nil => simp
  | cons message rest ih =>
    have hreceive : s.receive answers message = { s with inbox := s.inbox ++ [message] } := by
      unfold receive
      rw [hphase]
    rw [List.foldl_cons, hreceive]
    refine (ih (s := { s with inbox := s.inbox ++ [message] }) hphase).trans ?_
    simp

theorem inbox_receive (hphase : s.phase ≠ .connecting) (answers : Answers) (message : Message) :
    (s.receive answers message).inbox = s.inbox := by
  unfold receive
  cases hcases : s.phase with
  | connecting => exact absurd hcases hphase
  | connected =>
    obtain ⟨replica, phase, fetches, hread⟩ := s.framed_read answers message
    have hread : s.read answers message = _ := hread s.inbox
    dsimp only
    rw [hread]
  | delayed =>
    dsimp only
    split <;> rfl
  | ended => rfl

/-- A source that comes to the message is at its end, unless it has to connect first; then fewer
messages wait than before. -/
theorem waiting_stop (answers : Answers) {messages : List Message} (hstop : .stop ∈ messages)
    (hphase : s.phase ≠ .connecting) :
    (messages.foldl (receive answers) s).phase = .ended ∨
      ((messages.foldl (receive answers) s).phase = .connecting ∧
        .stop ∈ (messages.foldl (receive answers) s).inbox ∧
        (messages.foldl (receive answers) s).inbox.length < s.inbox.length + messages.length) := by
  induction messages generalizing s with
  | nil => exact absurd hstop List.not_mem_nil
  | cons message rest ih =>
    rw [List.foldl_cons]
    by_cases hended : (s.receive answers message).phase = .ended
    · rw [waiting_of_ended hended]
      exact Or.inl hended
    · have hother : message ≠ .stop := fun h =>
        hended ((phase_receive_eq_ended_iff message).mpr (Or.inr (Or.inl ⟨h, hphase⟩)))
      have hrest : .stop ∈ rest := (List.mem_cons.mp hstop).resolve_left hother.symm
      have hinbox := inbox_receive hphase answers message
      by_cases hagain : (s.receive answers message).phase = .connecting
      · rw [waiting_of_connecting hagain, hinbox]
        refine Or.inr ⟨hagain, List.mem_append_right _ hrest, ?_⟩
        simp only [List.length_append, List.length_cons]
        omega
      · rcases ih hrest hagain with h | ⟨h, hmem, hlength⟩
        · exact Or.inl h
        · refine Or.inr ⟨h, hmem, ?_⟩
          rw [hinbox] at hlength
          simp only [List.length_cons]
          omega

theorem settle_of_ended (hphase : s.phase = .ended) (result : Except Failure Unit) (n : ℕ) :
    settle answers result n s = s := by
  cases n with
  | zero => rfl
  | succ n => rw [settle, hphase, if_neg Phase.noConfusion]

/-- A source that finds the message to stop while it settles has ended then. -/
theorem phase_settle (result : Except Failure Unit) (n : ℕ) {s : Streaming}
    (hphase : s.phase = .connecting) (hstop : .stop ∈ s.inbox) (hlength : s.inbox.length ≤ n) :
    (settle answers result n s).phase = .ended := by
  -- Each connection that comes out leaves fewer messages before the one that stops the source.
  induction n generalizing s with
  | zero =>
    have hempty : s.inbox = [] := List.length_eq_zero_iff.mp (Nat.le_zero.mp hlength)
    rw [hempty] at hstop
    exact absurd hstop List.not_mem_nil
  | succ n ih =>
    have hopened : (s.opened result).phase ≠ .connecting ∧ (s.opened result).inbox = [] := by
      cases result with
      | ok _ => exact ⟨Phase.noConfusion, rfl⟩
      | error failure =>
        refine ⟨?_, rfl⟩
        change (if failure.isRecoverable then Phase.delayed else .ended) ≠ .connecting
        split <;> exact Phase.noConfusion
    rw [settle, if_pos hphase, connect_eq, if_pos hphase]
    rcases waiting_stop answers hstop hopened.1 with h | ⟨h, hmem, hfewer⟩
    · rw [settle_of_ended h, h]
    · rw [hopened.2, List.length_nil] at hfewer
      exact ih h hmem (by omega)

/-- When closing returns, the source is at its end. -/
theorem phase_close (hopen : s.closed = false) (pending : Except Failure Unit) :
    (s.close answers pending).phase = .ended := by
  rw [close_eq, if_neg (by simp [hopen])]
  cases hphase : s.phase with
  | connecting =>
    have hclosing : (s.closing answers).phase = .connecting ∧
        (s.closing answers).inbox = s.inbox ++ [.stop] := by
      simp [closing, receive, hphase]
    refine phase_settle pending _ hclosing.1 ?_ (Nat.le_refl _)
    rw [hclosing.2]
    exact List.mem_append_right _ (List.mem_singleton.mpr rfl)
  | _ =>
    have hended : (s.closing answers).phase = .ended := by
      simp [closing, receive, read, hphase]
    rw [settle_of_ended hended, hended]

end FeatureFlags.Streaming

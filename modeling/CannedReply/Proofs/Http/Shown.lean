import CannedReply.Proofs.Http.OneAnswer

/-!
What is known of a request that is answered, whatever the client has sent: its method is a token,
and its path is made of the bytes that a path may have.
-/

namespace CannedReply.Http

variable {s rest : Bytes} {t : Target} {h : Head} {a : Arrival}

namespace Target

theorem path_of_withPath {scheme authority : Option Bytes}
    (read : withPath scheme authority s = .ok t) : ∀ b ∈ t.path, isPathByte b = true := by
  unfold withPath at read
  obtain ⟨bytes, read⟩ := checked_eq_ok_iff.1 read
  obtain ⟨-, read⟩ := checked_eq_ok_iff.1 read
  rw [Bool.or_eq_false_iff, Bool.not_eq_false'] at bytes
  rw [← Except.ok.inj read]
  exact List.all_eq_true.1 bytes.1

theorem path_of_readFull (read : readFull s = .ok t) : ∀ b ∈ t.path, isPathByte b = true := by
  unfold readFull at read
  obtain ⟨⟨scheme, rest⟩, -, read⟩ := then_eq_ok_iff.1 read
  obtain ⟨-, read⟩ := checked_eq_ok_iff.1 read
  obtain ⟨⟨authority, rest⟩, -, read⟩ := then_eq_ok_iff.1 read
  cases scheme with
  | none =>
    dsimp only at read
    split at read
    · rw [← Except.ok.inj read]
      nofun
    · cases read
  | some scheme =>
    dsimp only at read
    split at read
    · cases read
    · exact path_of_withPath read

/-- A path has only such bytes as a path may have, whatever was read. -/
theorem path_of_read (found : read s = .ok t) : ∀ b ∈ t.path, isPathByte b = true := by
  unfold read at found
  split at found
  · cases found
  split at found
  · cases found
  · rw [← Except.ok.inj found]
    exact List.forall_mem_singleton.2 rfl
  · exact path_of_withPath found
  · obtain ⟨⟨authority, rest⟩, -, found⟩ := then_eq_ok_iff.1 found
    dsimp only at found
    split at found
    · rw [← Except.ok.inj found]
      nofun
    · cases found
  · exact path_of_readFull found

end Target

theorem Scanner.head_method (found : Scanner.head s = .done h rest) :
    ∀ b ∈ h.method, isToken b = true := by
  obtain ⟨⟨_, _, read⟩, -⟩ := parts_of_head found
  obtain ⟨w, _, word, read⟩ := bind_eq_done_iff.1 read
  obtain ⟨_, _, _, read⟩ := bind_eq_done_iff.1 read
  cases read
  exact (run_eq_done word).2.1

/-- Whether method and path of a request are made of the bytes that they may have. -/
structure Request.HasGrammar (r : Request) : Prop where
  method : ∀ b ∈ r.method, isToken b = true
  path : ∀ b ∈ r.target.path, Target.isPathByte b = true

theorem hasGrammar_of_look (found : look s = .arrived a rest) : a.request.HasGrammar := by
  obtain ⟨h, whole, arrival⟩ := head_of_look found
  obtain ⟨method, -, target⟩ := Head.request_of_arrival arrival
  refine ⟨?_, Target.path_of_read target⟩
  rw [method]
  exact Scanner.head_method whole

/-- Only such a request is answered, whatever has been read before. -/
theorem Exchange.hasGrammar_of_settle {i : Intake} {looked : Nat} {unread : Bytes} {ended : Bool}
    {r : Request} (answered : settle i looked unread ended = .closed (.answered r)) :
    r.HasGrammar := by
  fun_induction settle i looked unread ended with
  | case1 i looked unread a rest seen =>
    have found := hasGrammar_of_look (look_of_lookAgain seen)
    unfold Arrival.outcome at answered
    split at answered
    · cases answered
    · cases answered
      exact found
  | case2 | case3 => exact absurd (closed.inj answered) (refuse_ne_answered _ _ _)
  | case4 => exact absurd (closed.inj answered) (giveUp_ne_answered _ _)
  | case5 => cases answered
  | case6 _ _ _ _ _ _ _ ih => exact ih answered

end CannedReply.Http

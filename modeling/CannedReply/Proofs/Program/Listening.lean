import CannedReply.Net.Stages
import CannedReply.Proofs.Net.AddressText
import CannedReply.Proofs.Net.Binding
import CannedReply.Proofs.Program.Turns

/-!
Whichever stage of setting up a socket fails, the error carries its reason, and the host and port
that were set. A socket that is set up has the first address that the host has.
-/

namespace CannedReply

/-- The last colon divides host and port, whatever the host holds. -/
theorem Endpoint.ofAuthority?_authority (e : Endpoint) : ofAuthority? e.authority = some e := by
  have text : e.authority.toList.reverse =
      (Numeral.digits 10 e.port.toNat).reverse ++ ':' :: e.host.toList.reverse := by
    simp [authority, Numeral.decimal]
  have digits : ∀ c ∈ (Numeral.digits 10 e.port.toNat).reverse, (c ≠ ':' : Bool) = true := by
    intro c mem
    have digit := Numeral.isDigit_of_mem_digits (by decide) (by decide) (List.mem_reverse.1 mem)
    rw [decide_eq_true_eq]
    rintro rfl
    exact absurd digit (by decide)
  have stop : ∀ c ∈ (':' :: e.host.toList.reverse).head?, (c ≠ ':' : Bool) = false := by simp
  have divided := Reader.run_append digits stop
  have port : Reader.port.whole? (':' :: Numeral.digits 10 e.port.toNat) = some e.port := by
    simp [Reader.whole?, Reader.port_written]
  unfold ofAuthority?
  rw [text, divided]
  simp [port]

namespace IPAddress

/-- The address as it is without the link on which it has its meaning. -/
def withoutScope : IPAddress → IPAddress
  | v4 a => v4 a
  | v6 a _ => v6 a 0

end IPAddress

theorem Machine.ip_settled (m : Machine) (ip : IPAddress) (port : UInt16) :
    (m.settled (.ofIP ip port)).ip.withoutScope = ip.withoutScope := by
  cases ip <;> rfl

section failures

variable {α β : Type} {m : Machine} {r : Option Failure}

theorem failureOf_attempt (m : Machine) (c : Call) : failureOf (m.attempt c) = m.fault? c := by
  unfold Machine.attempt
  cases m.fault? c <;> rfl

/-- What comes behind a step counts only if the step has not failed. -/
theorem failureOf_then {x : Except Failure α} {k : α → Except Failure β}
    (rest : ∀ a, failureOf (k a) = r) : failureOf (x >>= k) = (failureOf x).or r := by
  cases x with
  | error f => rfl
  | ok a => exact rest a

end failures

namespace Listener

variable {m : Machine} {e : Endpoint} {f : Failure} {stage : Stage} {l : Listener}

/-- The stages behind one that fails do not count. -/
theorem failing_cons (stages : List Stage) :
    (((stage :: stages).find? fun s => (s.failure? m e).isSome).bind fun s => s.failure? m e) =
      (stage.failure? m e).or
        ((stages.find? fun s => (s.failure? m e).isSome).bind fun s => s.failure? m e) := by
  cases failed : stage.failure? m e <;> simp [failed]

theorem open?_of_found {ip : IPAddress} {others : List IPAddress}
    (found : m.lookUp e.host = .ok (ip :: others)) : open? m e = (do
      m.attempt .openSocket
      m.attempt .allowReuse
      let address ← m.bind (.ofIP ip e.port)
      m.attempt .listen
      m.attempt .localAddress
      return ⟨address⟩) := by
  unfold open?
  rw [found]
  rfl

/-- Setting up a socket fails for the reason for which the first failing stage does. -/
theorem failureOf_open? (m : Machine) (e : Endpoint) :
    failureOf (open? m e) = (failingStage? m e).bind fun stage => stage.failure? m e := by
  unfold failingStage? Stage.all
  simp only [failing_cons, List.find?_nil, Option.bind_none]
  cases found : m.lookUp e.host with
  | error f => simp [open?, Stage.failure?, found, failureOf, Bind.bind, Except.bind]
  | ok ips =>
    cases ips with
    | nil =>
      unfold open?
      simp only [Stage.failure?, found]
      rfl
    | cons ip others =>
      rw [open?_of_found found]
      simp only [Stage.failure?, found, ← failureOf_attempt]
      exact failureOf_then fun _ => failureOf_then fun _ => failureOf_then fun _ =>
        failureOf_then fun _ => failureOf_then fun _ => rfl

theorem bind_eq_error_iff {error : ListenerError} :
    bind m e = .error error ↔ ∃ stage f, failingStage? m e = some stage ∧
      stage.failure? m e = some f ∧ error = .bind e.authority f := by
  have failed : bind m e = .error error ↔
      ∃ f, failureOf (open? m e) = some f ∧ error = .bind e.authority f := by
    unfold bind
    cases open? m e <;> simp [failureOf, Except.mapError, eq_comm]
  rw [failed, failureOf_open?]
  constructor
  · rintro ⟨f, found, named⟩
    obtain ⟨stage, first, fails⟩ := Option.bind_eq_some_iff.1 found
    exact ⟨stage, f, first, fails, named⟩
  · rintro ⟨stage, f, first, fails, named⟩
    exact ⟨f, Option.bind_eq_some_iff.2 ⟨stage, first, fails⟩, named⟩

/-- Without an address there is nothing to listen on. -/
theorem failure_of_choice (fails : Stage.choice.failure? m e = some f) : f = .noAddresses := by
  simp only [Stage.failure?] at fails
  split at fails
  · exact (Option.some.inj fails).symm
  · simp at fails

/-- A socket that is set up has the first address of the host, and the port. -/
theorem address_of_bind (opened : bind m e = .ok l) :
    ∃ ip others, m.lookUp e.host = .ok (ip :: others) ∧
      l.address.ip.withoutScope = ip.withoutScope := by
  obtain ⟨ip, reached⟩ := exists_reaches opened
  obtain ⟨others, found⟩ := reached.found
  obtain ⟨-, -, -, address⟩ := Machine.bind_eq_ok_iff.1 (reached.bind_eq_ok opened)
  exact ⟨ip, others, found, by rw [address, Machine.ip_settled]⟩

theorem port_ne_zero_of_bind (opened : bind m e = .ok l) : l.address.port ≠ 0 := by
  rw [port_of_bind opened]
  split
  · exact m.freePort_ne_zero
  · assumption

end Listener

namespace Program

open Server

/-- Whatever host and port are set: if a socket cannot be listened on, the error is one about
listening, it carries the reason of the stage that fails first, and names host and port so that
they can be read back. If it can, it has the first address of the host and the port, any but zero
where zero is set, and the server that then comes about keeps the address and the mode. -/
theorem listening_tells_what_it_came_to (w : Surroundings) (c : Config) :
    (∀ error, Listener.bind w.machine c.listener = .error error ↔
      ∃ stage f, Listener.failingStage? w.machine c.listener = some stage ∧
        stage.failure? w.machine c.listener = some f ∧
        error = .bind c.listener.authority f ∧ error.failure.kind = f.kind) ∧
    (∀ f, Listener.Stage.choice.failure? w.machine c.listener = some f →
      f.kind = .invalidInput) ∧
    Endpoint.ofAuthority? c.listener.authority = some c.listener ∧
    ∀ l, Listener.bind w.machine c.listener = .ok l →
      (∃ ip others, w.machine.lookUp c.listener.host = .ok (ip :: others) ∧
        l.address.ip.withoutScope = ip.withoutScope) ∧
      l.address.port ≠ 0 ∧ (c.listener.port ≠ 0 → l.address.port = c.listener.port) ∧
      ∀ (p : Process) next, p.stage = .going (.listen c next) →
        ∃ (q : Process) (s : State), p.step w .own = some q ∧
          q.stage = .going (next (.ok l.address)) ∧ q.server = some s ∧
          ∀ ls t, s.steps ls = some t → t.address = l.address ∧ t.mode = c.acceptMode := by
  refine ⟨fun error => ?_, ?_, Endpoint.ofAuthority?_authority _, fun l opened =>
    ⟨Listener.address_of_bind opened, Listener.port_ne_zero_of_bind opened, fun asked => ?_,
      fun p next stage => ?_⟩⟩
  · rw [Listener.bind_eq_error_iff]
    constructor
    · rintro ⟨stage, f, first, fails, rfl⟩
      exact ⟨stage, f, first, fails, rfl, rfl⟩
    · rintro ⟨stage, f, first, fails, named, -⟩
      exact ⟨stage, f, first, fails, named⟩
  · intro f fails
    rw [Listener.failure_of_choice fails]
    rfl
  · rw [Listener.port_of_bind opened, if_neg asked]
  · have server := Process.advance_eq_some_iff.2 (.opened stage opened)
    refine ⟨_, _, server, rfl, rfl, fun ls t run => ?_⟩
    exact ⟨State.address_steps run, State.mode_steps run⟩

/-- A host that holds colons itself: a server comes about there, and no server does where the call
to listen fails. -/
theorem listening_on_a_host_with_colons :
    let c : Config := ⟨⟨"::1", 0⟩, .forever⟩
    let w : Surroundings :=
      ⟨.standalone, fun _ => .error .noSuchFile, none, none, fun _ => true⟩
    let busy (call : Call) : Option Failure := if call = .listen then some .addressInUse else none
    let deaf : Surroundings := { w with machine := { Machine.standalone with fault? := busy } }
    let address : SocketAddress := .v6 { groups := [0, 0, 0, 0, 0, 0, 0, 1] } 49152 0 0
    ∃ (q : Process) (s : State), Listener.bind w.machine c.listener = .ok ⟨address⟩ ∧
      (Process.start (.listen c Plan.bound)).step w .own = some q ∧ q.server = some s ∧
      s.address = address ∧ s.mode = .forever ∧
      Listener.failingStage? deaf.machine c.listener = some .listening ∧
      Listener.bind deaf.machine c.listener = .error (.bind "::1:0" .addressInUse) ∧
      Endpoint.ofAuthority? "::1:0" = some c.listener := by
  intro c w busy deaf address
  have opened : Listener.bind w.machine c.listener = .ok ⟨address⟩ := by decide +kernel
  obtain ⟨-, -, -, fine⟩ := listening_tells_what_it_came_to w c
  obtain ⟨errors, -, recovered, -⟩ := listening_tells_what_it_came_to deaf c
  obtain ⟨-, -, -, keeps⟩ := fine _ opened
  obtain ⟨q, s, step, -, server, kept⟩ := keeps (Process.start (.listen c Plan.bound)) _ rfl
  have failing : Listener.failingStage? deaf.machine c.listener = some .listening := by
    decide +kernel
  have named : c.listener.authority = "::1:0" := by decide +kernel
  rw [named] at errors recovered
  obtain ⟨sameAddress, sameMode⟩ := kept [] s rfl
  exact ⟨q, s, opened, step, server, sameAddress, sameMode, failing,
    (errors _).2 ⟨_, _, failing, rfl, rfl, rfl⟩, recovered⟩

end Program

end CannedReply

import CannedReply.Net.Listener
import CannedReply.Proofs.Outcome

/-!
When a socket can be bound and listened on. The port counts for whether others are in the way, and
the address for all the rest.
-/

namespace CannedReply

namespace SocketAddress

/-- The same address with another port. -/
def withPort (a : SocketAddress) (port : UInt16) : SocketAddress :=
  match a with
  | v4 ip _ => v4 ip port
  | v6 ip _ flow scope => v6 ip port flow scope

@[simp] theorem withPort_frame (a : SocketAddress) (p : UInt16) :
    (a.withPort p).port = p ∧ (a.withPort p).ip = a.ip ∧
    Machine.servesAll (a.withPort p) = Machine.servesAll a ∧
    Machine.servedIPv4? (a.withPort p) = Machine.servedIPv4? a := by
  cases a <;> simp [withPort, port, ip, Machine.servesAll, Machine.servedIPv4?]

@[simp] theorem withPort_self (a : SocketAddress) : a.withPort a.port = a := by
  cases a <;> rfl

theorem port_ofIP (ip : IPAddress) (p : UInt16) : (ofIP ip p).port = p := by
  cases ip <;> rfl

end SocketAddress

namespace Machine

variable {m m' : Machine} {a b : SocketAddress} {ip : IPAddress} {p q : UInt16} {c : Call}

theorem attempt_eq_ok_iff : m.attempt c = .ok () ↔ m.fault? c = none := by
  unfold attempt
  cases m.fault? c <;> simp

theorem collide_self (a : SocketAddress) : collide a a = true := by
  cases a with
  | v4 ip port => simp [collide, servedIPv4?]
  | v6 ip port flow scope =>
    cases mapped : ip.mapped? <;> simp [collide, servedIPv4?, mapped]

/-- Of the port it counts only whether it is the same. -/
theorem collide_withPort (same : p = b.port ↔ q = b.port) :
    collide (a.withPort p) b = collide (a.withPort q) b := by
  simp [collide, same]

theorem settled_port (m : Machine) (a : SocketAddress) :
    (m.settled a).port = if a.port = 0 then m.freePort else a.port := by
  cases a <;> rfl

theorem settled_port_ne_zero (m : Machine) (a : SocketAddress) : (m.settled a).port ≠ 0 := by
  rw [settled_port]
  split
  · exact m.freePort_ne_zero
  · assumption

/-- The machine counts for the port alone. -/
theorem settled_eq_withPort (m m' : Machine) (a : SocketAddress) :
    m.settled a = (m'.settled a).withPort (m.settled a).port := by
  cases a <;> rfl

/-- To ask for the port that a socket has gives the address that it has. -/
theorem settled_again (m m' : Machine) (ip : IPAddress) (p : UInt16) :
    m'.settled (.ofIP ip (m.settled (.ofIP ip p)).port) = m.settled (.ofIP ip p) := by
  have nonzero := m.settled_port_ne_zero (.ofIP ip p)
  cases ip with
  | v4 ip => simp_all [SocketAddress.ofIP, settled, SocketAddress.port]
  | v6 ip scope => simp_all [SocketAddress.ofIP, settled, SocketAddress.port]

/-- Two ports that are not reserved are refused alike. -/
theorem refusal?_ofIP (h : m.isReserved p = m.isReserved q) :
    m.refusal? (.ofIP ip p) = m.refusal? (.ofIP ip q) := by
  cases ip <;> simp only [SocketAddress.ofIP, refusal?, h]

/-- Whether an address is free on a machine. -/
def IsFree (m : Machine) (a : SocketAddress) : Prop :=
  ∀ b ∈ m.listening, collide (m.settled a) b = false

theorem bind_of_fault {f : Failure} (fault : m.fault? .bind = some f) : m.bind a = .error f := by
  simp [bind, attempt, fault, Bind.bind, Except.bind]

theorem bind_of_refused {f : Failure} (able : m.fault? .bind = none)
    (refused : m.refusal? a = some f) : m.bind a = .error f := by
  simp [bind, attempt, able, refused, Bind.bind, Except.bind]
  rfl

/-- What comes of binding a socket to an address that is not refused. -/
theorem bind_eq (able : m.fault? .bind = none) (allowed : m.refusal? a = none) :
    (m.IsFree a → m.bind a = .ok (m.settled a)) ∧
      (¬m.IsFree a → m.bind a = .error .addressInUse) := by
  have started : m.attempt .bind = .ok () := attempt_eq_ok_iff.2 able
  constructor
  · intro free
    have clear : m.listening.any (collide (m.settled a)) = false := by
      simpa [IsFree] using free
    simp [bind, started, allowed, clear, Bind.bind, Except.bind, Pure.pure, Except.pure]
  · intro taken
    have blocked : m.listening.any (collide (m.settled a)) = true := by
      simpa [IsFree] using taken
    simp [bind, started, allowed, blocked, Bind.bind, Except.bind]
    rfl

theorem bind_eq_ok_iff :
    m.bind a = .ok b ↔
      m.fault? .bind = none ∧ m.refusal? a = none ∧ m.IsFree a ∧ b = m.settled a := by
  cases fault : m.fault? .bind with
  | some f => simp [bind_of_fault fault]
  | none =>
    cases refused : m.refusal? a with
    | some f => simp [bind_of_refused fault refused]
    | none =>
      by_cases free : m.IsFree a
      · simp [(bind_eq fault refused).1 free, free, eq_comm]
      · simp [(bind_eq fault refused).2 free, free]

/-- The same machine, on which the system chooses another port. -/
def withFreePort (m : Machine) (free : UInt16) (nonzero : free ≠ 0) : Machine :=
  { m with freePort := free, freePort_ne_zero := nonzero }

/-- Which port the system chooses makes no difference but for the port, if neither of the two is
listened on. -/
theorem bind_withFreePort {free : UInt16} (nonzero : free ≠ 0)
    (alike : a.port = 0 → ∀ b ∈ m.listening, m.freePort = b.port ↔ free = b.port) :
    (m.withFreePort free nonzero).bind a =
      (m.bind a).map fun b => b.withPort (if a.port = 0 then free else a.port) := by
  have settles : (m.withFreePort free nonzero).settled a =
      (m.settled a).withPort (if a.port = 0 then free else a.port) := by
    rw [settled_eq_withPort _ m, settled_port]
    rfl
  have asFree : (m.withFreePort free nonzero).IsFree a ↔ m.IsFree a := by
    refine forall₂_congr fun b listening => ?_
    have same : (if a.port = 0 then free else a.port) = b.port ↔ (m.settled a).port = b.port := by
      rw [settled_port]
      split
      · next zero => exact (alike zero b listening).symm
      · rfl
    rw [settles, collide_withPort same, SocketAddress.withPort_self]
  cases fault : m.fault? .bind with
  | some f =>
    rw [bind_of_fault fault, bind_of_fault (m := m.withFreePort free nonzero) fault]
    rfl
  | none =>
    cases refused : m.refusal? a with
    | some f =>
      rw [bind_of_refused fault refused,
        bind_of_refused (m := m.withFreePort free nonzero) fault refused]
      rfl
    | none =>
      have there := bind_eq (m := m.withFreePort free nonzero) fault refused
      by_cases isFree : m.IsFree a
      · rw [there.1 (asFree.2 isFree), (bind_eq fault refused).1 isFree, settles]
        rfl
      · rw [there.2 (mt asFree.1 isFree), (bind_eq fault refused).2 isFree]
        rfl

end Machine

namespace Listener

variable {m m' : Machine} {e : Endpoint} {l : Listener} {ip : IPAddress}

/-- Whether a machine finds the host at an address and, as far as the address does not count, can
open a socket there. -/
structure Reaches (m : Machine) (host : String) (ip : IPAddress) : Prop where
  found : ∃ others, m.lookUp host = .ok (ip :: others)
  opens : m.fault? .openSocket = none
  reuses : m.fault? .allowReuse = none
  listens : m.fault? .listen = none
  tells : m.fault? .localAddress = none

/-- For a host that is reached, it is the address that counts. -/
theorem Reaches.bind_eq (h : Reaches m e.host ip) :
    bind m e =
      ((m.bind (.ofIP ip e.port)).map Listener.mk).mapError (.bind e.authority) := by
  obtain ⟨others, found⟩ := h.found
  have opens := Machine.attempt_eq_ok_iff.2 h.opens
  have reuses := Machine.attempt_eq_ok_iff.2 h.reuses
  have listens := Machine.attempt_eq_ok_iff.2 h.listens
  have tells := Machine.attempt_eq_ok_iff.2 h.tells
  cases bound : m.bind (.ofIP ip e.port) <;>
    simp [bind, open?, found, opens, reuses, listens, tells, bound, Bind.bind, Except.bind,
      Pure.pure, Except.pure, Except.map]

/-- A host where something is listened on is reached. -/
theorem exists_reaches (h : bind m e = .ok l) : ∃ ip, Reaches m e.host ip := by
  have opened : open? m e = .ok l := by
    cases listener : open? m e <;> simp_all [bind, Except.mapError]
  obtain ⟨ips, found, h⟩ := then_eq_ok_iff.1 opened
  cases ips with
  | nil => simp [throw, throwThe, MonadExceptOf.throw] at h
  | cons ip others =>
    simp only [then_eq_ok_iff] at h
    obtain ⟨_, opens, _, reuses, _, _, _, listens, _, tells, _⟩ := h
    exact ⟨ip, ⟨others, found⟩, Machine.attempt_eq_ok_iff.1 opens,
      Machine.attempt_eq_ok_iff.1 reuses, Machine.attempt_eq_ok_iff.1 listens,
      Machine.attempt_eq_ok_iff.1 tells⟩

/-- An address that is listened on has been bound. -/
theorem Reaches.bind_eq_ok (h : Reaches m e.host ip) (opened : bind m e = .ok l) :
    m.bind (.ofIP ip e.port) = .ok l.address := by
  rw [h.bind_eq] at opened
  cases bound : m.bind (.ofIP ip e.port) with
  | error f => simp [bound, Except.map, Except.mapError] at opened
  | ok a =>
    simp only [bound, Except.map, Except.mapError, Except.ok.injEq] at opened
    rw [← opened]

theorem Reaches.withListener {host : String} (h : Reaches m host ip) (a : SocketAddress) :
    Reaches (m.withListener a) host ip :=
  ⟨h.found, h.opens, h.reuses, h.listens, h.tells⟩

/-- The port is the one that is asked for, or the one that the system chooses. -/
theorem port_of_bind (opened : bind m e = .ok l) :
    l.address.port = if e.port = 0 then m.freePort else e.port := by
  obtain ⟨ip, reached⟩ := exists_reaches opened
  obtain ⟨-, -, -, address⟩ := Machine.bind_eq_ok_iff.1 (reached.bind_eq_ok opened)
  rw [address, Machine.settled_port, SocketAddress.port_ofIP]

/-- The same host and port can be had again, as long as nobody listens there. A port that the
system has chosen must be one that can be asked for. -/
theorem bind_again (opened : bind m e = .ok l)
    (ephemeral : e.port = 0 → m.isReserved m.freePort = false) :
    bind m ⟨e.host, l.address.port⟩ = .ok l ∧
      bind (m.withListener l.address) ⟨e.host, l.address.port⟩ =
        .error (.bind (Endpoint.authority ⟨e.host, l.address.port⟩) .addressInUse) := by
  obtain ⟨ip, reached⟩ := exists_reaches opened
  obtain ⟨able, allowed, free, address⟩ := Machine.bind_eq_ok_iff.1 (reached.bind_eq_ok opened)
  have again : ∀ m' : Machine, m'.settled (.ofIP ip l.address.port) = l.address := by
    intro m'
    rw [address, Machine.settled_again]
  have reserved : m.isReserved e.port = m.isReserved l.address.port := by
    rw [address, Machine.settled_port, SocketAddress.port_ofIP]
    split
    · next zero =>
      rw [ephemeral zero, zero]
      rfl
    · rfl
  have allowed' : m.refusal? (.ofIP ip l.address.port) = none := by
    rw [← Machine.refusal?_ofIP reserved, allowed]
  have reached' := reached.withListener l.address
  constructor
  · have free' : m.IsFree (.ofIP ip l.address.port) := by
      intro b listening
      rw [again, address]
      exact free b listening
    rw [Reaches.bind_eq (e := ⟨e.host, l.address.port⟩) reached,
      (Machine.bind_eq able allowed').1 free', again]
    rfl
  · have taken : ¬(m.withListener l.address).IsFree (.ofIP ip l.address.port) := by
      intro free'
      have apart := free' l.address (List.mem_cons_self ..)
      simp [again, Machine.collide_self] at apart
    rw [Reaches.bind_eq (e := ⟨e.host, l.address.port⟩) reached',
      (Machine.bind_eq (m := m.withListener l.address) able allowed').2 taken]
    rfl

/-- Nor does it make one for the listener. -/
theorem bind_withFreePort {free : UInt16} (nonzero : free ≠ 0)
    (alike : e.port = 0 → ∀ b ∈ m.listening, m.freePort = b.port ↔ free = b.port) :
    bind (m.withFreePort free nonzero) e =
      (bind m e).map fun l => ⟨l.address.withPort (if e.port = 0 then free else e.port)⟩ := by
  have same : ∀ ip, (m.withFreePort free nonzero).bind (.ofIP ip e.port) =
      (m.bind (.ofIP ip e.port)).map fun b =>
        b.withPort (if e.port = 0 then free else e.port) := by
    intro ip
    have bound := Machine.bind_withFreePort (m := m) (a := .ofIP ip e.port) nonzero
    rw [SocketAddress.port_ofIP] at bound
    exact bound alike
  have found : (m.withFreePort free nonzero).lookUp e.host = m.lookUp e.host := rfl
  have attempts : ∀ c, (m.withFreePort free nonzero).attempt c = m.attempt c := fun _ => rfl
  unfold bind open?
  rw [found]
  cases m.lookUp e.host with
  | error f => rfl
  | ok ips =>
    cases ips with
    | nil => rfl
    | cons ip others =>
      simp only [attempts, same, Bind.bind, Except.bind]
      cases m.attempt .openSocket with
      | error f => rfl
      | ok u =>
        cases m.attempt .allowReuse with
        | error f => rfl
        | ok u =>
          cases m.bind (.ofIP ip e.port) with
          | error f => rfl
          | ok a =>
            cases m.attempt .listen with
            | error f => rfl
            | ok u => cases m.attempt .localAddress <;> rfl

end Listener

end CannedReply

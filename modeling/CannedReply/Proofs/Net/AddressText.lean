import CannedReply.Net.AddressReader
import CannedReply.Proofs.Text.Numeral
import CannedReply.Proofs.Text.Reader
import CannedReply.Server.Readiness
import Mathlib.Data.Bool.AllAny

/-!
An address that is written is read back, whichever zeros its text leaves out, and so is the address
in the line of a server that is ready.
-/

namespace CannedReply

open Numeral

namespace IPv6

theorem zeros_cons (g : UInt16) (gs : List UInt16) :
    zeros (g :: gs) = if g = 0 then zeros gs + 1 else 0 := by
  by_cases h : g = 0 <;> simp [zeros, h]

/-- The zeros that a list starts with, and what comes behind them, are the list. -/
theorem replicate_zeros (gs : List UInt16) :
    List.replicate (zeros gs) 0 ++ gs.drop (zeros gs) = gs := by
  induction gs with
  | nil => rfl
  | cons g gs ih =>
    rw [zeros_cons]
    split
    · next zero => rw [List.replicate_succ, List.cons_append, List.drop_succ_cons, ih, zero]
    · rfl

/-- The better one of two runs, chosen again and again, is one of those that there were. -/
theorem mem_foldl_longer (runs : List (Nat × Nat)) (best : Nat × Nat) :
    runs.foldl (fun best run => if best.2 < run.2 then run else best) best ∈ best :: runs := by
  induction runs generalizing best with
  | nil => exact List.mem_singleton.2 rfl
  | cons run runs ih =>
    rw [List.foldl_cons]
    have later := ih (if best.2 < run.2 then run else best)
    rcases List.mem_cons.1 later with same | mem
    · rw [same]
      split <;> simp
    · simp [mem]

theorem zeros_of_longestZeros {gs : List UInt16} {start length : Nat}
    (found : longestZeros gs = (start, length)) (positive : 0 < length) :
    length = zeros (gs.drop start) := by
  have mem := mem_foldl_longer ((List.range gs.length).map fun i => (i, zeros (gs.drop i))) (0, 0)
  rw [← longestZeros, found] at mem
  rcases List.mem_cons.1 mem with none | mem
  · have : length = 0 := (Prod.mk.inj none).2
    omega
  · obtain ⟨i, -, same⟩ := List.mem_map.1 mem
    obtain ⟨rfl, rfl⟩ := Prod.mk.inj same
    rfl

/-- What stands before and behind the longest run is the address but for the run's zeros. -/
theorem eq_of_longestZeros {gs : List UInt16} {start length : Nat}
    (found : longestZeros gs = (start, length)) (positive : 0 < length) :
    gs.take start ++ List.replicate length 0 ++ gs.drop (start + length) = gs := by
  have run := zeros_of_longestZeros found positive
  have rest := replicate_zeros (gs.drop start)
  rw [← run, List.drop_drop] at rest
  rw [List.append_assoc, rest, List.take_append_drop]

theorem writtenGroups_nil : writtenGroups [] = [] := rfl

theorem writtenGroups_cons (g : UInt16) (gs : List UInt16) :
    writtenGroups (g :: gs) =
      digits 16 g.toNat ++ gs.flatMap fun g => ':' :: digits 16 g.toNat := by
  induction gs generalizing g with
  | nil => simp [writtenGroups]
  | cons g' gs ih =>
    have shape : writtenGroups (g :: g' :: gs) =
        digits 16 g.toNat ++ ':' :: writtenGroups (g' :: gs) := by
      simp [writtenGroups, List.intercalate]
    rw [shape, ih, List.flatMap_cons, List.cons_append]

/-- The two octets of a group make it up. -/
theorem octets_of_group (g : UInt16) :
    (g >>> 8).toUInt8.toUInt16 <<< 8 ||| g.toUInt8.toUInt16 = g := by
  apply UInt16.toNat_inj.1
  have small := g.toNat_lt
  have high : (g >>> 8).toUInt8.toUInt16.toNat = g.toNat / 256 := by
    simp [Nat.shiftRight_eq_div_pow]
    omega
  have low : g.toUInt8.toUInt16.toNat = g.toNat % 256 := by simp
  rw [UInt16.toNat_or, UInt16.toNat_shiftLeft, high, low]
  have shift : (g.toNat / 256) <<< ((8 : UInt16).toNat % 16) % 2 ^ 16 = (g.toNat / 256) <<< 8 := by
    have width : (8 : UInt16).toNat % 16 = 8 := rfl
    rw [width, Nat.shiftLeft_eq]
    omega
  rw [shift, ← Nat.shiftLeft_add_eq_or_of_lt (show g.toNat % 256 < 2 ^ 8 by omega),
    Nat.shiftLeft_eq]
  omega

/-- An address that stands for one of IPv4 ends with its octets. -/
theorem groups_of_mapped {a : IPv6} {b : IPv4} (mapped : a.mapped? = some b) :
    a.groups = List.replicate 5 0 ++ 0xffff :: b.groups := by
  unfold mapped? at mapped
  split at mapped
  · next g h shape =>
    obtain rfl := Option.some.inj mapped
    rw [shape]
    simp only [IPv4.groups, octets_of_group]
    rfl
  · cases mapped

theorem ofList?_groups (a : IPv6) : ofList? a.groups = some a :=
  dif_pos a.length_groups

end IPv6

theorem IPv4.length_groups (a : IPv4) : a.groups.length = 2 := by
  obtain ⟨octets, four⟩ := a
  match octets, four with
  | [b, c, d, e], _ => rfl

namespace Reader

variable {rest s : List Char} {base limit n : Nat} {most : Option Nat}

/-- A number is read back if it is in bounds and no digit follows. -/
theorem numeral_digits (hb : 2 ≤ base) (hs : base ≤ 16) (small : n < limit)
    (short : ∀ m ∈ most, (digits base n).length ≤ m)
    (stop : ∀ c ∈ rest.head?, isDigit base c = false) :
    numeral base most limit (digits base n ++ rest) = some (n, rest) := by
  have parts := run_append (fun c => isDigit_of_mem_digits hb hs (n := n) (c := c)) stop
  simp only [run, Option.some.injEq, Prod.mk.injEq] at parts
  have fits : ¬most.any (· < (digits base n).length) = true := by
    cases most with
    | none => simp
    | some m =>
      have := short m rfl
      simp
      omega
  have nonempty : ¬(digits base n).isEmpty = true := by simp [digits_ne_nil]
  simp only [numeral, parts.1, parts.2, number_digits hb hs]
  rw [if_neg]
  rintro (bad | bad | bad)
  · exact nonempty bad
  · exact fits bad
  · omega

theorem numeral_of_head (stop : ∀ c ∈ s.head?, isDigit base c = false) :
    numeral base most limit s = none := by
  have nothing : s.takeWhile (isDigit base) = [] := by
    cases s with
    | nil => rfl
    | cons c s => simp [stop c rfl]
  simp [numeral, nothing]

theorem octet_digits (b : UInt8) (stop : ∀ c ∈ rest.head?, isDigit 10 c = false) :
    octet (digits 10 b.toNat ++ rest) = some (b, rest) := by
  have small : b.toNat < UInt8.size := b.toNat_lt_size
  have short : (digits 10 b.toNat).length ≤ 3 :=
    length_digits_le (by omega) (Nat.lt_trans small (by decide))
  have read : numeral 10 (some 3) UInt8.size (digits 10 b.toNat ++ rest) = some (b.toNat, rest) :=
    numeral_digits (by omega) (by omega) small (by simpa using short) stop
  have plain : ¬((digits 10 b.toNat ++ rest).head? = some '0' ∧
      rest.length + 1 < (digits 10 b.toNat ++ rest).length) := by
    rintro ⟨zero, long⟩
    rw [List.head?_append, Option.or_of_isSome (by simp [digits_ne_nil])] at zero
    rw [eq_zero_of_head?_digits (by omega) (by omega) zero] at long
    simp at long
  simp only [octet, read]
  rw [if_neg plain, UInt8.ofNat_toNat]

theorem octet_of_head (stop : ∀ c ∈ s.head?, isDigit 10 c = false) : octet s = none := by
  simp only [octet, numeral_of_head stop]

theorem rest_of_numeral (read : numeral base most limit s = some (n, rest)) :
    rest = s.dropWhile (isDigit base) := by
  simp only [numeral] at read
  split at read
  · cases read
  · exact (Prod.mk.inj (Option.some.inj read)).2.symm

theorem rest_of_octet {b : UInt8} (read : octet s = some (b, rest)) :
    rest = s.dropWhile (isDigit 10) := by
  unfold octet at read
  split at read
  · next n r found =>
    have behind := rest_of_numeral found
    split at read
    · cases read
    · have same : r = rest := (Prod.mk.inj (Option.some.inj read)).2
      rw [← same, behind]
  · cases read

theorem isDigit_head_point (rest : List Char) :
    ∀ c ∈ ('.' :: rest).head?, isDigit 10 c = false := by
  intro c same
  cases same
  decide

theorem ipv4_written (a : IPv4) (stop : ∀ c ∈ rest.head?, isDigit 10 c = false) :
    ipv4 (a.written ++ rest) = some (a, rest) := by
  obtain ⟨octets, four⟩ := a
  match octets, four with
  | [b, c, d, e], _ =>
    have shape : IPv4.written ⟨[b, c, d, e], rfl⟩ ++ rest =
        digits 10 b.toNat ++ '.' :: (digits 10 c.toNat ++ '.' :: (digits 10 d.toNat ++ '.' ::
          (digits 10 e.toNat ++ rest))) := by
      simp [IPv4.written, List.intercalate]
    unfold ipv4
    rw [shape, bind_of (octet_digits b (isDigit_head_point _)), bind_of (token_cons '.' _),
      bind_of (octet_digits c (isDigit_head_point _)), bind_of (token_cons '.' _),
      bind_of (octet_digits d (isDigit_head_point _)), bind_of (token_cons '.' _),
      bind_of (octet_digits e stop)]
    rfl

/-- Without a point behind the first digits there is no IPv4 address. -/
theorem ipv4_of_no_point (h : ∀ c ∈ (s.dropWhile (isDigit 10)).head?, c ≠ '.') :
    ipv4 s = none := by
  unfold ipv4
  cases read : octet s with
  | none => exact bind_of_none read
  | some r =>
    obtain ⟨b, rest⟩ := r
    rw [bind_of read]
    have behind := rest_of_octet read
    subst behind
    exact bind_of_none (token_of_head_ne h)

/-- Whether a text starts with what neither continues a group nor makes an octet of it. -/
def EndsGroup (rest : List Char) : Prop :=
  ∀ c ∈ rest.head?, isDigit 16 c = false ∧ c ≠ '.'

theorem EndsGroup.decimal (h : EndsGroup rest) : ∀ c ∈ rest.head?, isDigit 10 c = false := by
  intro c head
  refine Bool.eq_false_iff.2 fun digit => ?_
  have wide : isDigit 16 c = true := isDigit_of_le (by omega) digit
  rw [(h c head).1] at wide
  cases wide

theorem group_digits (g : UInt16) (ends : EndsGroup rest) :
    group (digits 16 g.toNat ++ rest) = some (g, rest) := by
  have small : g.toNat < UInt16.size := g.toNat_lt_size
  have short : (digits 16 g.toNat).length ≤ 4 :=
    length_digits_le (by omega) (Nat.lt_of_lt_of_le small (by decide))
  have read : numeral 16 (some 4) UInt16.size (digits 16 g.toNat ++ rest) = some (g.toNat, rest) :=
    numeral_digits (by omega) (by omega) small (by simpa using short) fun c head => (ends c head).1
  unfold group
  rw [bind_of read, UInt16.ofNat_toNat]
  rfl

/-- A group is no IPv4 address, even where its digits are an octet. -/
theorem ipv4_of_group (g : UInt16) (ends : EndsGroup rest) :
    ipv4 (digits 16 g.toNat ++ rest) = none := by
  apply ipv4_of_no_point
  intro c head
  rw [List.dropWhile_append] at head
  split at head
  · -- all digits of the group are decimal, and what follows is not
    have stays : rest.dropWhile (isDigit 10) = rest := by
      cases rest with
      | nil => rfl
      | cons d rest => simp [ends.decimal d rfl]
    rw [stays] at head
    exact (ends c head).2
  · next some =>
    rw [List.head?_append, Option.or_of_isSome (by simpa using some)] at head
    have mem : c ∈ digits 16 g.toNat :=
      (List.dropWhile_sublist _).subset (List.mem_of_mem_head? head)
    have digit := isDigit_of_mem_digits (by omega) (by omega) mem
    rintro rfl
    exact absurd digit (by decide)

theorem divided_true {α : Type} (r : Reader α) (s : List Char) : divided true r s = r s := rfl

theorem divided_false {α : Type} (r : Reader α) (s : List Char) :
    divided false r (':' :: s) = r s :=
  bind_of (token_cons ':' s)

theorem divided_of_head {α : Type} (r : Reader α) (h : ∀ c ∈ s.head?, c ≠ ':') :
    divided false r s = none :=
  bind_of_none (token_of_head_ne h)

/-- Where neither a group nor an IPv4 address follows, there are no more groups. -/
theorem groups_stop {first : Bool} (noGroup : divided first group s = none)
    (noAddress : divided first ipv4 s = none) (room : Nat) :
    groups room first s = (([], false), s) := by
  cases room with
  | zero => rfl
  | succ room => simp [groups, noGroup, noAddress]

/-- A group is read, and then the groups behind it. -/
theorem groups_step {room : Nat} {first : Bool} {t : List Char} {g : UInt16} {gs : List UInt16}
    {embedded : Bool} (one : divided first group s = some (g, rest))
    (noAddress : divided first ipv4 s = none)
    (more : groups room false rest = ((gs, embedded), t)) :
    groups (room + 1) first s = ((g :: gs, embedded), t) := by
  simp [groups, one, noAddress, more]

/-- Whether a text starts with what ends a row of groups: a bracket, a percent sign, or the double
colon. -/
inductive EndsGroups : List Char → Prop where
  | bracket (rest : List Char) : EndsGroups (']' :: rest)
  | percent (rest : List Char) : EndsGroups ('%' :: rest)
  | colons (rest : List Char) : EndsGroups (':' :: ':' :: rest)

namespace EndsGroups

theorem endsGroup (h : EndsGroups rest) : EndsGroup rest := by
  intro c head
  cases h <;> cases head <;> decide

theorem nothing (h : EndsGroups rest) (first : Bool) :
    divided first group rest = none ∧ divided first ipv4 rest = none := by
  have plain : ∀ s : List Char, (∀ c ∈ s.head?, isDigit 16 c = false) →
      group s = none ∧ ipv4 s = none := by
    intro s stop
    have decimal : ∀ c ∈ s.head?, isDigit 10 c = false := by
      intro c head
      refine Bool.eq_false_iff.2 fun digit => ?_
      have wide : isDigit 16 c = true := isDigit_of_le (by omega) digit
      rw [stop c head] at wide
      cases wide
    exact ⟨bind_of_none (numeral_of_head stop), bind_of_none (octet_of_head decimal)⟩
  cases first with
  | true => exact plain rest fun c head => (h.endsGroup c head).1
  | false =>
    cases h with
    | bracket rest => exact ⟨divided_of_head _ (by simp), divided_of_head _ (by simp)⟩
    | percent rest => exact ⟨divided_of_head _ (by simp), divided_of_head _ (by simp)⟩
    | colons rest =>
      rw [divided_false, divided_false]
      apply plain
      intro c head
      cases head
      decide

theorem groups (h : EndsGroups rest) (first : Bool) (room : Nat) :
    Reader.groups room first rest = (([], false), rest) :=
  groups_stop (h.nothing first).1 (h.nothing first).2 room

end EndsGroups

theorem endsGroup_colon (rest : List Char) : EndsGroup (':' :: rest) := by
  intro c head
  cases head
  decide

/-- A group ends where the next one comes with its colon, or where all of them end. -/
theorem EndsGroups.endsGroup_more (ends : EndsGroups rest) (gs : List UInt16) :
    EndsGroup ((gs.flatMap fun g => ':' :: digits 16 g.toNat) ++ rest) := by
  cases gs with
  | nil => exact ends.endsGroup
  | cons g gs => exact endsGroup_colon _

/-- The groups behind the first one, each with its colon. -/
theorem groups_more (gs : List UInt16) {room : Nat} (enough : gs.length ≤ room)
    (ends : EndsGroups rest) :
    groups room false ((gs.flatMap fun g => ':' :: digits 16 g.toNat) ++ rest) =
      ((gs, false), rest) := by
  induction gs generalizing room with
  | nil => exact ends.groups false room
  | cons g gs ih =>
    obtain ⟨room, rfl⟩ : ∃ r, room = r + 1 := ⟨room - 1, by simp at enough; omega⟩
    have next := ends.endsGroup_more gs
    rw [List.flatMap_cons, List.append_assoc, List.cons_append]
    apply groups_step _ _ (ih (by simpa using enough))
    · rw [divided_false]
      exact group_digits g next
    · rw [divided_false]
      exact ipv4_of_group g next

/-- Groups are read back up to what ends them, if there is room for them. -/
theorem groups_written (gs : List UInt16) {room : Nat} (enough : gs.length ≤ room)
    (ends : EndsGroups rest) :
    groups room true (IPv6.writtenGroups gs ++ rest) = ((gs, false), rest) := by
  cases gs with
  | nil => exact ends.groups true room
  | cons g gs =>
    obtain ⟨room, rfl⟩ : ∃ r, room = r + 1 := ⟨room - 1, by simp at enough; omega⟩
    have next := ends.endsGroup_more gs
    rw [IPv6.writtenGroups_cons, List.append_assoc]
    exact groups_step (group_digits g next) (ipv4_of_group g next)
      (groups_more gs (by simpa using enough) ends)

/-- What may stand behind an address in brackets: the bracket, or a scope. -/
inductive EndsAddress : List Char → Prop where
  | bracket (rest : List Char) : EndsAddress (']' :: rest)
  | percent (rest : List Char) : EndsAddress ('%' :: rest)

theorem EndsAddress.endsGroups (h : EndsAddress rest) : EndsGroups rest := by
  cases h with
  | bracket rest => exact .bracket rest
  | percent rest => exact .percent rest

/-- A text with a double colon is read as its groups with zeros between them. -/
theorem ipv6_colons {front back : List UInt16} {embedded : Bool} {a : IPv6} {zeros : Nat}
    {t : List Char} (first : groups 8 true s = ((front, false), ':' :: ':' :: t))
    (second : groups (7 - front.length) true t = ((back, embedded), rest))
    (shape : front ++ List.replicate zeros 0 ++ back = a.groups) (missing : 0 < zeros) :
    ipv6 s = some (a, rest) := by
  have length := congrArg List.length shape
  rw [a.length_groups, List.length_append, List.length_append, List.length_replicate] at length
  have short : IPv6.ofList? front = none := dif_neg (by omega)
  have count : 8 - front.length - back.length = zeros := by omega
  simp [ipv6, first, short, second, count, shape, IPv6.ofList?_groups]

theorem ipv6_mapped {a : IPv6} {b : IPv4} (mapped : a.mapped? = some b) (ends : EndsAddress rest) :
    ipv6 ([':', ':', 'f', 'f', 'f', 'f', ':'] ++ b.written ++ rest) = some (a, rest) := by
  have nothing : groups 8 true ([':', ':', 'f', 'f', 'f', 'f', ':'] ++ b.written ++ rest) =
      (([], false), [':', ':', 'f', 'f', 'f', 'f', ':'] ++ b.written ++ rest) :=
    (EndsGroups.colons _).groups true 8
  have colon := endsGroup_colon (b.written ++ rest)
  have ones : digits 16 (0xffff : UInt16).toNat = ['f', 'f', 'f', 'f'] := by decide +kernel
  have read := group_digits 0xffff colon
  have noAddress := ipv4_of_group 0xffff colon
  rw [ones] at read noAddress
  have last : groups 6 false (':' :: (b.written ++ rest)) = ((b.groups, true), rest) := by
    have octets : divided false ipv4 (':' :: (b.written ++ rest)) = some (b, rest) := by
      rw [divided_false]
      exact ipv4_written b ends.endsGroups.endsGroup.decimal
    simp [groups, octets]
  have behind : groups 7 true (['f', 'f', 'f', 'f'] ++ ':' :: (b.written ++ rest)) =
      ((0xffff :: b.groups, true), rest) :=
    groups_step read noAddress last
  have shape : [] ++ List.replicate 5 0 ++ 0xffff :: b.groups = a.groups := by
    rw [IPv6.groups_of_mapped mapped]
    rfl
  exact ipv6_colons nothing behind shape (by omega)

theorem ipv6_written (a : IPv6) (ends : EndsAddress rest) :
    ipv6 (a.written ++ rest) = some (a, rest) := by
  unfold IPv6.written
  cases mapped : a.mapped? with
  | some b => exact ipv6_mapped mapped ends
  | none =>
    have eight := a.length_groups
    cases found : IPv6.longestZeros a.groups with
    | mk start length =>
      dsimp only
      split
      · next long =>
        have shape := IPv6.eq_of_longestZeros found (show 0 < length by omega)
        have count := congrArg List.length shape
        rw [List.length_append, List.length_append, List.length_replicate, eight] at count
        rw [List.append_assoc, List.append_assoc]
        have before : (a.groups.take start).length ≤ 8 := by omega
        have behind : (a.groups.drop (start + length)).length ≤
            7 - (a.groups.take start).length := by omega
        have first := groups_written (a.groups.take start) before
          (.colons (IPv6.writtenGroups (a.groups.drop (start + length)) ++ rest))
        have second := groups_written _ behind ends.endsGroups
        exact ipv6_colons first second shape (by omega)
      · have all := groups_written a.groups (Nat.le_of_eq eight) ends.endsGroups
        simp [ipv6, all, IPv6.ofList?_groups]

theorem port_written (p : UInt16) : port (':' :: digits 10 p.toNat) = some (p, []) := by
  have read : numeral 10 none UInt16.size (digits 10 p.toNat ++ []) = some (p.toNat, []) :=
    numeral_digits (by omega) (by omega) p.toNat_lt_size nofun nofun
  rw [List.append_nil] at read
  unfold port
  rw [bind_of (token_cons ':' _), bind_of read, UInt16.ofNat_toNat]
  rfl

theorem scope_written (n : UInt32) (rest : List Char) :
    scope ('%' :: (digits 10 n.toNat ++ ']' :: rest)) = some (n, ']' :: rest) := by
  have stop : ∀ c ∈ (']' :: rest).head?, isDigit 10 c = false := by
    intro c head
    cases head
    decide
  have read : numeral 10 none UInt32.size (digits 10 n.toNat ++ ']' :: rest) =
      some (n.toNat, ']' :: rest) :=
    numeral_digits (by omega) (by omega) n.toNat_lt_size nofun stop
  unfold scope
  rw [bind_of (token_cons '%' _), bind_of read, UInt32.ofNat_toNat]
  rfl

theorem socketAddress4_written (a : IPv4) (p : UInt16) :
    socketAddress4 (SocketAddress.v4 a p).written = some (.v4 a p, []) := by
  have stop : ∀ c ∈ (':' :: digits 10 p.toNat).head?, isDigit 10 c = false := by
    intro c head
    cases head
    decide
  unfold socketAddress4 SocketAddress.written
  rw [bind_of (ipv4_written a stop), bind_of (port_written p)]
  rfl

/-- The scope is read where there is one, and is zero where there is none. -/
theorem socketAddress6_written (a : IPv6) (p : UInt16) (flow n : UInt32) :
    socketAddress6 (SocketAddress.v6 a p flow n).written = some (.v6 a p 0 n, []) := by
  unfold socketAddress6 SocketAddress.written
  rw [bind_of (token_cons '[' _), List.append_assoc]
  by_cases zero : n = 0
  · have none : scope (']' :: ':' :: digits 10 p.toNat) = none :=
      bind_of_none (token_of_head_ne (by simp))
    rw [if_pos zero, List.nil_append, bind_of (ipv6_written a (.bracket _)),
      bind_of (optional_of_none none), bind_of (token_cons ']' _), bind_of (port_written p), zero]
    rfl
  · have link := scope_written n (':' :: digits 10 p.toNat)
    rw [if_neg zero, List.cons_append, bind_of (ipv6_written a (.percent _)),
      bind_of (optional_of link), bind_of (token_cons ']' _), bind_of (port_written p)]
    rfl

end Reader

namespace SocketAddress

/-- The same address without a flow label. -/
def withoutFlow : SocketAddress → SocketAddress
  | v4 ip port => v4 ip port
  | v6 ip port _ scope => v6 ip port 0 scope

/-- An address that is written is read back, but for the flow label. -/
theorem ofText?_text (a : SocketAddress) : ofText? a.text = some a.withoutFlow := by
  unfold ofText? text Reader.whole?
  rw [String.toList_ofList]
  cases a with
  | v4 ip port =>
    rw [Reader.orElse_of (Reader.socketAddress4_written ip port)]
    rfl
  | v6 ip port flow scope =>
    have bracket : ∀ s, Reader.socketAddress4 ('[' :: s) = none := by
      intro s
      refine Reader.bind_of_none (Reader.bind_of_none (Reader.octet_of_head ?_))
      intro c head
      cases head
      decide
    have other : Reader.socketAddress4 (v6 ip port flow scope).written = none := bracket _
    rw [Reader.orElse_of_none other, Reader.socketAddress6_written]
    rfl

theorem text_withoutFlow (a : SocketAddress) : a.withoutFlow.text = a.text := by
  cases a <;> rfl

theorem text_eq_iff {a b : SocketAddress} : a.text = b.text ↔ a.withoutFlow = b.withoutFlow := by
  constructor
  · intro same
    have read := congrArg ofText? same
    rw [ofText?_text, ofText?_text] at read
    exact Option.some.inj read
  · intro same
    rw [← text_withoutFlow a, same, text_withoutFlow b]

end SocketAddress

/-- Whether a character shows or is a space, and is one of ASCII. No line break is. -/
def IsAsciiShown (c : Char) : Prop :=
  0x20 ≤ c.toNat ∧ c.toNat ≤ 0x7e

theorem shown_of_digits {base n : Nat} (hb : 2 ≤ base) (hs : base ≤ 16) :
    ∀ c ∈ digits base n, IsAsciiShown c :=
  fun _ mem => ascii_of_mem_digits hb hs mem

theorem shown_of_intercalate {mark : Char} (shows : IsAsciiShown mark) {pieces : List (List Char)}
    (all : ∀ p ∈ pieces, ∀ c ∈ p, IsAsciiShown c) :
    ∀ c ∈ [mark].intercalate pieces, IsAsciiShown c := by
  induction pieces with
  | nil => exact nofun
  | cons p pieces ih =>
    rw [List.forall_mem_cons] at all
    cases pieces with
    | nil => simpa [List.intercalate] using all.1
    | cons q pieces =>
      have shape : [mark].intercalate (p :: q :: pieces) =
          p ++ mark :: [mark].intercalate (q :: pieces) := by
        simp [List.intercalate]
      rw [shape, List.forall_mem_append, List.forall_mem_cons]
      exact ⟨all.1, shows, ih all.2⟩

theorem IPv4.shown (a : IPv4) : ∀ c ∈ a.written, IsAsciiShown c := by
  apply shown_of_intercalate ⟨by decide, by decide⟩
  intro piece mem
  obtain ⟨b, -, rfl⟩ := List.mem_map.1 mem
  exact shown_of_digits (by omega) (by omega)

theorem IPv6.shown_groups (gs : List UInt16) : ∀ c ∈ writtenGroups gs, IsAsciiShown c := by
  apply shown_of_intercalate ⟨by decide, by decide⟩
  intro piece mem
  obtain ⟨g, -, rfl⟩ := List.mem_map.1 mem
  exact shown_of_digits (by omega) (by omega)

theorem IPv6.shown (a : IPv6) : ∀ c ∈ a.written, IsAsciiShown c := by
  have marks : ∀ c ∈ [':', ':', 'f', 'f', 'f', 'f', ':'], IsAsciiShown c := by
    have bounds : ∀ c ∈ [':', ':', 'f', 'f', 'f', 'f', ':'], 0x20 ≤ c.toNat ∧ c.toNat ≤ 0x7e :=
      List.all_iff_forall_prop.1 (by decide)
    exact bounds
  unfold written
  cases a.mapped? with
  | some b => exact List.forall_mem_append.2 ⟨marks, b.shown⟩
  | none =>
    dsimp only
    split
    · intro c mem
      rw [List.append_assoc, List.mem_append, List.mem_append] at mem
      rcases mem with mem | mem | mem
      · exact shown_groups _ c mem
      · exact marks c (by simp at mem; simp [mem])
      · exact shown_groups _ c mem
    · exact shown_groups _

theorem SocketAddress.shown (a : SocketAddress) : ∀ c ∈ a.written, IsAsciiShown c := by
  have marks : ∀ c ∈ ['[', '%', ']', ':'], IsAsciiShown c := by
    have bounds : ∀ c ∈ ['[', '%', ']', ':'], 0x20 ≤ c.toNat ∧ c.toNat ≤ 0x7e :=
      List.all_iff_forall_prop.1 (by decide)
    exact bounds
  have number : ∀ n, ∀ c ∈ digits 10 n, IsAsciiShown c := fun n =>
    shown_of_digits (by omega) (by omega)
  have port : ∀ p : UInt16, ∀ c ∈ ':' :: digits 10 p.toNat, IsAsciiShown c := by
    intro p
    exact List.forall_mem_cons.2 ⟨marks ':' (by simp), number _⟩
  cases a with
  | v4 ip p => exact List.forall_mem_append.2 ⟨ip.shown, port p⟩
  | v6 ip p flow n =>
    have scope : ∀ c ∈ (if n = 0 then [] else '%' :: digits 10 n.toNat), IsAsciiShown c := by
      split
      · nofun
      · exact List.forall_mem_cons.2 ⟨marks '%' (by simp), number _⟩
    have inside := List.forall_mem_append.2 ⟨ip.shown, scope⟩
    have closed := List.forall_mem_cons.2 ⟨marks ']' (by simp), port p⟩
    exact List.forall_mem_cons.2 ⟨marks '[' (by simp), List.forall_mem_append.2 ⟨inside, closed⟩⟩

/-- The address in the line of a server that is ready can be read, so that lines are equal only for
addresses that differ in their flow labels at most. Nothing in the line breaks it. -/
theorem readinessLine_tells_the_address :
    (∀ a, ∃ shown, readinessLine a = "Serving on " ++ shown ∧
      SocketAddress.ofText? shown = some a.withoutFlow) ∧
    (∀ a b, readinessLine a = readinessLine b ↔ a.withoutFlow = b.withoutFlow) ∧
    ∀ a, ∀ c ∈ (readinessLine a).toList, 0x20 ≤ c.toNat ∧ c.toNat ≤ 0x7e := by
  refine ⟨fun a => ⟨a.text, rfl, a.ofText?_text⟩, fun a b => ?_, fun a => ?_⟩
  · rw [← SocketAddress.text_eq_iff]
    constructor
    · intro same
      have chars := congrArg String.toList same
      rw [readinessLine, readinessLine, String.toList_append, String.toList_append] at chars
      exact String.toList_inj.1 (List.append_cancel_left chars)
    · intro same
      rw [readinessLine, same, readinessLine]
  · have front : ∀ c ∈ "Serving on ".toList, IsAsciiShown c := by
      have bounds : ∀ c ∈ "Serving on ".toList, 0x20 ≤ c.toNat ∧ c.toNat ≤ 0x7e :=
        List.all_iff_forall_prop.1 (by decide)
      exact bounds
    have behind : ∀ c ∈ a.text.toList, IsAsciiShown c := by
      rw [SocketAddress.text, String.toList_ofList]
      exact a.shown
    rw [readinessLine, String.toList_append]
    exact List.forall_mem_append.2 ⟨front, behind⟩

theorem address_told_with_its_scope :
    readinessLine (.v6 ⟨[0xfe80, 0, 0, 1, 0, 0, 0, 1], rfl⟩ 80 7 3) =
      "Serving on [fe80:0:0:1::1%3]:80" ∧
    SocketAddress.ofText? "[fe80:0:0:1::1%3]:80" =
      some (.v6 ⟨[0xfe80, 0, 0, 1, 0, 0, 0, 1], rfl⟩ 80 0 3) := by
  have line : readinessLine (.v6 ⟨[0xfe80, 0, 0, 1, 0, 0, 0, 1], rfl⟩ 80 7 3) =
      "Serving on [fe80:0:0:1::1%3]:80" := by decide +kernel
  obtain ⟨shown, told, read⟩ := readinessLine_tells_the_address.1
    (.v6 ⟨[0xfe80, 0, 0, 1, 0, 0, 0, 1], rfl⟩ 80 7 3)
  have same : ("Serving on " ++ shown).toList = ("Serving on " ++ "[fe80:0:0:1::1%3]:80").toList :=
    congrArg String.toList (told.symm.trans line)
  rw [String.toList_append, String.toList_append] at same
  obtain rfl := String.toList_inj.1 (List.append_cancel_left same)
  exact ⟨line, read⟩

end CannedReply

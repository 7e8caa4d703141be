import CannedReply.Text.Quoted

/-!
Places in a text, counted in the bytes that its characters take. A text can be cut between two of
its characters, and nowhere else.
-/

namespace CannedReply.Text

/-- The number of bytes that characters take. -/
def size (s : List Char) : Nat :=
  s.foldr (fun c n => c.utf8Size + n) 0

/-- The text in front of a place and the text from there on. A place inside of a character gives
the character, and how many of its bytes stand in front. -/
def splitAt : List Char → Nat → Except (Char × Nat) (List Char × List Char)
  | s, 0 => .ok ([], s)
  | [], _ + 1 => .ok ([], [])
  | c :: s, n + 1 =>
    if c.utf8Size ≤ n + 1 then
      (splitAt s (n + 1 - c.utf8Size)).map fun (front, rest) => (c :: front, rest)
    else .error (c, n + 1)

/-- A side of a part of a text. -/
inductive Side where
  | start
  | stop
  deriving DecidableEq, Repr

def Side.word : Side → String
  | start => "start"
  | stop => "end"

/-- A cut that would go through a character, at a place that has so many bytes of the character in
front of it. -/
structure Slip where
  side : Side
  place : Nat
  char : Char
  depth : Nat
  deriving DecidableEq, Repr

/-- What is said about a cut that would go through a character, which takes several bytes then. -/
def Slip.message (s : Slip) : String :=
  let start := s.place - s.depth
  s.side.word ++ " byte index " ++ Numeral.decimal s.place
    ++ " is not a char boundary; it is inside '" ++ String.ofList (escape s.char)
    ++ "' (bytes " ++ Numeral.decimal start ++ ".." ++ Numeral.decimal (start + s.char.utf8Size)
    ++ " of string)"

def cut (side : Side) (s : List Char) (place : Nat) : Except Slip (List Char × List Char) :=
  (splitAt s place).mapError fun (char, depth) => { side, place, char, depth }

/-- What stands from one place of a text up to another one. -/
def part (s : List Char) (start stop : Nat) : Except Slip (List Char) := do
  let (front, _) ← cut .start s start
  let (whole, _) ← cut .stop s stop
  return whole.drop front.length

/-- What stands from a place of a text on. -/
def behind (s : List Char) (start : Nat) : Except Slip (List Char) := do
  let (_, rest) ← cut .start s start
  return rest

/-- Whether a text can be cut at a place. -/
def IsPlace (s : List Char) (n : Nat) : Prop :=
  ∃ front rest, splitAt s n = .ok (front, rest)

@[simp] theorem size_nil : size [] = 0 := rfl

@[simp] theorem size_cons (c : Char) (s : List Char) : size (c :: s) = c.utf8Size + size s := rfl

/-- A text can be cut behind any of its characters. -/
theorem splitAt_append (front rest : List Char) :
    splitAt (front ++ rest) (size front) = .ok (front, rest) := by
  induction front with
  | nil => cases rest <;> rfl
  | cons c front ih =>
    obtain ⟨n, hn⟩ : ∃ n, size (c :: front) = n + 1 :=
      Nat.exists_eq_succ_of_ne_zero (by have := c.utf8Size_pos; simp only [size_cons]; omega)
    have fits : c.utf8Size ≤ n + 1 := by rw [← hn, size_cons]; omega
    have left : n + 1 - c.utf8Size = size front := by rw [← hn, size_cons]; omega
    rw [hn, List.cons_append, splitAt, if_pos fits, left, ih]
    rfl

theorem isPlace_append (front rest : List Char) : IsPlace (front ++ rest) (size front) :=
  ⟨front, rest, splitAt_append front rest⟩

/-- Where all characters take one byte each, a text can be cut everywhere. -/
theorem isPlace_of_narrow {s : List Char} (narrow : ∀ c ∈ s, c.utf8Size = 1) (n : Nat) :
    IsPlace s n := by
  induction s generalizing n with
  | nil => cases n <;> exact ⟨_, _, rfl⟩
  | cons c s ih =>
    cases n with
    | zero => exact ⟨_, _, rfl⟩
    | succ n =>
      have one : c.utf8Size = 1 := narrow c List.mem_cons_self
      obtain ⟨front, rest, here⟩ := ih (fun d mem => narrow d (List.mem_cons_of_mem _ mem)) n
      refine ⟨c :: front, rest, ?_⟩
      rw [splitAt, if_pos (by omega), one, Nat.add_sub_cancel, here]
      rfl

theorem exists_part {s : List Char} {start stop : Nat} (h : IsPlace s start)
    (h' : IsPlace s stop) : ∃ t, part s start stop = .ok t := by
  obtain ⟨front, rest, first⟩ := h
  obtain ⟨whole, rest', second⟩ := h'
  exact ⟨whole.drop front.length, by simp only [part, cut, first, second]; rfl⟩

theorem exists_behind {s : List Char} {start : Nat} (h : IsPlace s start) :
    ∃ t, behind s start = .ok t := by
  obtain ⟨front, rest, first⟩ := h
  exact ⟨rest, by simp only [behind, cut, first]; rfl⟩

example : (part ['é', '='] 0 1).toOption = none := by decide
example : (Slip.mk .stop 1 'é' 1).message =
    "end byte index 1 is not a char boundary; it is inside 'é' (bytes 0..2 of string)" := by
  decide +kernel

end CannedReply.Text

/-!
Lines of texts. Other characters that break a line where a text is shown, such as U+2028, do not
end one here.
-/

namespace CannedReply.Text

/-- Whether a character breaks a line: a line feed or a carriage return. -/
def isBreak (c : Char) : Bool :=
  c = '\n' || c = '\r'

/-- Whether a text is on one line. -/
def IsLine (s : String) : Prop :=
  ∀ c ∈ s.toList, isBreak c = false

instance (s : String) : Decidable (IsLine s) :=
  List.decidableBAll (fun c => isBreak c = false) s.toList

/-- The lines of a text, each of which ends in front of a line feed but for the last one. -/
def lines (s : String) : List String :=
  (s.toList.splitOn '\n').map String.ofList

end CannedReply.Text

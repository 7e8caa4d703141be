import CannedReply.Text.Numeral
import CannedReply.Toml.Reader

/-!
Reports that show the line in question, number it, and underline the stretch that they are about.
-/

namespace CannedReply.Toml

def byteLength (cs : List Char) : Nat :=
  (String.ofList cs).utf8ByteSize

def lastLine (cs : List Char) : List Char :=
  (cs.reverse.takeWhile (· ≠ '\n')).reverse

/-- A report about a stretch of a text. Lines and columns count from one, and columns count
characters. The underline counts bytes, has at least one mark, and ends with the line. -/
def report (text : List Char) (span : Span) (reason : String) : String :=
  let before := text.take (text.length - span.start.length)
  let left := lastLine before
  let content := left ++ span.start.takeWhile (· ≠ '\n')
  let number := Numeral.decimal (before.count '\n' + 1)
  let margin := String.ofList (List.replicate (number.length + 1) ' ')
  let marks := min (byteLength span.start - byteLength span.stop)
    (byteLength content - left.length)
  "TOML parse error at line " ++ number ++ ", column " ++ Numeral.decimal (left.length + 1) ++ "\n"
    ++ margin ++ "|\n"
    ++ number ++ " | " ++ String.ofList content ++ "\n"
    ++ margin ++ "| " ++ String.ofList (List.replicate left.length ' ')
    ++ String.ofList (List.replicate (max 1 marks) '^') ++ "\n"
    ++ reason ++ "\n"

end CannedReply.Toml

namespace SessionHost

/-!
# Quoted literals

The engine's character literals stand between single quotes, and a quote
inside one is written twice.  `decode` undoes that doubling; it refuses a
quote that stands alone, because there the literal would have ended.
-/

namespace Quoted

/-- Write every single quote twice. -/
def double : List Char → List Char
  | [] => []
  | char :: rest => if char = '\'' then '\'' :: '\'' :: double rest else char :: double rest

/-- Take doubled quotes back, or fail at one that stands alone. -/
def decode : List Char → Option (List Char)
  | [] => some []
  | [char] => if char = '\'' then none else some [char]
  | char :: next :: rest =>
    if char = '\'' then
      if next = '\'' then (decode rest).map ('\'' :: ·) else none
    else (decode (next :: rest)).map (char :: ·)

/-- The text with its quotes doubled, ready to stand inside a literal. -/
def escape (text : String) : String :=
  String.ofList (double text.toList)

/-- The text as a literal of its own. -/
def literal (text : String) : String :=
  "'" ++ escape text ++ "'"

end Quoted

end SessionHost

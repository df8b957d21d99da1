import SessionHost.Toml.Codec
import SessionHost.Toml.Quoted

namespace SessionHost

/-!
# Writing a document

A document that is written has one section after another, with a blank line
between them.  Each section has its header, even if it has no settings, and
each setting is one assignment.
-/

namespace Toml

def Plain.write : Plain → List Char
  | text content => Quoted.write content
  | path bytes => Quoted.write (Utf8.decodeLossy bytes)
  | number value => Nat.toDigits 10 value
  | flag true => "true".toList
  | flag false => "false".toList

def Setting.write (setting : Setting) : List Char :=
  setting.name.toList ++ " = ".toList ++ setting.value.write ++ ['\n']

def Section.write (part : Section) : List Char :=
  '[' :: part.name.toList ++ [']', '\n'] ++ part.settings.flatMap Setting.write

/-- What is wrong with a value for which there is no room. -/
def Plain.fault : Plain → WriteFault
  | path _ => .invalidPath
  | _ => .outOfRange

/-- The document of sections.  If there is no room for some of their values, the first
of these is reported. -/
def write (sections : List Section) : Except WriteFault String :=
  match (sections.flatMap (·.settings)).find? fun setting => ¬ setting.value.Fits with
  | some setting => .error setting.value.fault
  | none => .ok (String.ofList (List.intercalate ['\n'] (sections.map Section.write)))

end Toml

end SessionHost

/-
This file reads settings from the bytes of a file.
-/

import GuestPod.Wire.SettingsYaml

namespace GuestPod.Settings

/-- A file may be absent; its size is checked before its text. -/
def load (path : String) : Option ByteArray → Except Error Settings
  | none => .error (.inputOutput "No such file or directory (os error 2)")
  | some bytes =>
      if Contract.settingsFileLimit < bytes.size then
        .error (.invalidSetting path ("file is " ++ toString bytes.size ++ " bytes, limit is " ++
          toString Contract.settingsFileLimit))
      else
        match String.fromUTF8? bytes with
        | some text => readYaml text
        | none => .error (.inputOutput "stream did not contain valid UTF-8")

end GuestPod.Settings

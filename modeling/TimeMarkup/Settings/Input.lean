import TimeMarkup.Binding.Formatter
import TimeMarkup.Failure
import TimeMarkup.Timestamp.Reading
/-!
Timestamps, modes, locales and zones as they are given by hand, with the failure that each can
cause.
-/

namespace TimeMarkup

def Instant.ofInput (cs : List Char) : Except Failure Instant :=
  match Timestamp.read? cs with
  | some i => .ok i
  | none => .error (.invalidTimestamp (Text.trim cs))

def Mode.ofInput (cs : List Char) : Except Failure Mode :=
  match Mode.parse? (String.ofList cs) with
  | some mode => .ok mode
  | none => .error (.unrecognizedMode cs)

def LocaleTag.ofInput (cs : List Char) : Except Failure LocaleTag :=
  match LocaleTag.ofChars? cs with
  | some tag => .ok tag
  | none => .error (.invalidLocale cs)

def Zone.ofInput (cs : List Char) : Except Failure Zone :=
  let lower := cs.map Char.toLower
  match Zone.ofText? (String.ofList lower) with
  | some zone => .ok zone
  | none => .error (.settings (.unknownZone lower))

end TimeMarkup

import OrchidApi.Text

/-! Times as `datetime.isoformat` writes them, read as the routers read them, and `repr` for
the messages about texts that are no times. -/
namespace OrchidApi
open Text

/-- `datetime.datetime`, by the two parts of its `isoformat()`. -/
structure Datetime where
  naive : Str
  offset : Option Str := none
  deriving DecidableEq, Repr

namespace Datetime

def isoformat (d : Datetime) : Str := d.naive ++ d.offset.getD []

/-- `d.replace(tzinfo=UTC)` -/
def inUtc (d : Datetime) : Datetime := { d with offset := some "+00:00".toList }

/-- `value.replace("Z", "+00:00")` -/
def replaceZulu (value : Str) : Str := value.flatMap fun c => if c = 'Z' then "+00:00".toList else [c]

/-- What `fromisoformat` reads, in UTC unless the text says otherwise. -/
def parseAware (fromIsoformat : Str → Option Datetime) (value : Str) : Option Datetime :=
  (fromIsoformat (replaceZulu value)).map fun parsed =>
    if parsed.offset.isNone then parsed.inUtc else parsed

end Datetime

/-! ## `repr` -/

def hexDigits (width n : Nat) : Str :=
  List.replicate (width - (Nat.toDigits 16 n).length) '0' ++ Nat.toDigits 16 n

def reprChar (isPrintable : Char → Bool) (quote c : Char) : Str :=
  if c = quote ∨ c = '\x5c' then ['\x5c', c]
  else if c = '\t' then ['\x5c', 't']
  else if c = '\n' then ['\x5c', 'n']
  else if c = '\r' then ['\x5c', 'r']
  else if c.toNat < 32 ∨ c.toNat = 127 then '\x5c' :: 'x' :: hexDigits 2 c.toNat
  else if c.toNat < 127 ∨ isPrintable c then [c]
  else if c.toNat < 0x100 then '\x5c' :: 'x' :: hexDigits 2 c.toNat
  else if c.toNat < 0x10000 then '\x5c' :: 'u' :: hexDigits 4 c.toNat
  else '\x5c' :: 'U' :: hexDigits 8 c.toNat

/-- `repr(s)`; `isPrintable` is asked about code points beyond ASCII. -/
def reprStr (isPrintable : Char → Bool) (s : Str) : Str :=
  let quote := if s.contains '\x27' && !s.contains '"' then '"' else '\x27'
  quote :: s.flatMap (reprChar isPrintable quote) ++ [quote]

example : reprStr (fun _ => true) "it's\n".toList = "\"it's\\n\"".toList := by decide

end OrchidApi

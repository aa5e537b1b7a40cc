import Mathlib.Algebra.Group.Int.Defs
import Mathlib.Algebra.Group.Nat.Defs
import Luagent.Foundation.Bytes

/-! Control payloads: newline-separated `key=value` records, the number parsing
of the C library, and bounded formatting. Both `transfer.c` and `proc.c` carry
their own copy of `kv_value` and `kv_copy`; the copies are the same function. -/

namespace Luagent
open Foundation

def newline : UInt8 := 10
def carriageReturn : UInt8 := 13
def equalsSign : UInt8 := 61

/-- The C string at the front of a byte array. -/
def cstr (bytes : Bytes) : Bytes := bytes.takeWhile (· ≠ 0)

/-- `line_len`: up to the next newline, or to the end of the text. -/
def lineLen (line : Bytes) : Nat := (line.takeWhile (· ≠ newline)).length

/-- Whether the record at `line` binds `key` to a value that is not empty. -/
def bindsKey (key line : Bytes) : Bool :=
  key.length + 1 < lineLen line && line.take key.length == key && line.getD key.length 0 == equalsSign

/-- The scan of `kv_value`. The C loop jumps from one line start to the next with
`strchr`; here the walk between two line starts is made byte by byte. -/
def kvScan (key : Bytes) (lineStart : Bool) : Bytes → Option Bytes
  | [] => none
  | byte :: rest =>
    if lineStart && bindsKey key (byte :: rest) then some ((byte :: rest).drop (key.length + 1))
    else kvScan key (byte == newline) rest

def kvValue (payload key : Bytes) : Option Bytes := kvScan key true payload

def kvCopy (dstSize : Nat) (payload key : Bytes) : Option Bytes :=
  match kvValue payload key with
  | none => none
  | some value =>
    let text := value.takeWhile fun byte => byte ≠ carriageReturn && byte ≠ newline
    if dstSize < text.length + 1 then none else some text

def isSpace (byte : UInt8) : Bool := byte == 32 || (9 ≤ byte && byte ≤ 13)

def isDigit (byte : UInt8) : Bool := 48 ≤ byte && byte ≤ 57

def digitsValue (digits : Bytes) : Nat := digits.foldl (fun value digit => value * 10 + (digit.toNat - 48)) 0

/-- `strtoull` and `strtoul` to base ten with 64-bit results: leading white
space, an optional sign, digits. There is no result when nothing was converted
or `errno` was set; else the value and the unconverted rest. -/
def strtoull (text : Bytes) : Option (Nat × Bytes) :=
  let body := text.dropWhile isSpace
  let negative := body.head? == some 45
  let unsigned := if negative || body.head? == some 43 then body.drop 1 else body
  let digits := unsigned.takeWhile isDigit
  let value := digitsValue digits
  if digits.isEmpty then none
  else if 2 ^ 64 ≤ value then none
  else some (if negative then (2 ^ 64 - value) % 2 ^ 64 else value, unsigned.drop digits.length)

/-- A converted text counts only when nothing is left of it. -/
def parseUnsigned (text : Bytes) : Option Nat :=
  match strtoull text with
  | some (value, []) => some value
  | _ => none

def kvU64 (payload key : Bytes) : Option Nat := (kvCopy 64 payload key).bind parseUnsigned

def kvU64Default (payload key : Bytes) (defaultValue : Nat) : Nat := (kvU64 payload key).getD defaultValue

/-- Narrowed to `uint32_t` without a range check. -/
def kvU32 (payload key : Bytes) : Option UInt32 := ((kvCopy 32 payload key).bind parseUnsigned).map (·.toUInt32)

def kvBoolDefault (payload key : Bytes) (defaultValue : Bool) : Bool :=
  match kvCopy 16 payload key with
  | none => defaultValue
  | some text => text == ascii "1"

/-- `util_snprintf`: the formatted text, unless it and its terminator do not fit. -/
def utilSnprintf (dstSize : Nat) (text : Bytes) : Option Bytes := if text.length < dstSize then some text else none

/-- `%u` and `%llu`. -/
def decimal (value : Nat) : Bytes := (Nat.toDigits 10 value).map Char.toUInt8

/-- `%lld`. -/
def signedDecimal : Int → Bytes
  | .ofNat value => decimal value
  | .negSucc value => ascii "-" ++ decimal (value + 1)

example : kvCopy 512 (ascii "path=a\nsize=3\noverwrite=1") (ascii "size") = some (ascii "3") := by decide
example : kvU64 (ascii "size2=9\nsize=-1\r\n") (ascii "size") = some (2 ^ 64 - 1) := by decide

end Luagent

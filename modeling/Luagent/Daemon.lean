import Mathlib.Algebra.Group.Int.Defs
import Luagent.Foundation.Unicode
import Luagent.Frame

/-! The client daemon (`tools/client_daemon.py`) in Python's own terms: how it
builds a frame from numbers of any size, and how it reads the text of a result. -/

namespace Luagent.Daemon
open Foundation

/-- A number in `bytes([..])`; others than those of a byte raise `ValueError`. -/
def byteOf (value : Int) : Option UInt8 := if 0 ≤ value ∧ value < 256 then some (UInt8.ofNat value.toNat) else none

/-- A number in `struct.pack("<I", ..)`; others than those of 32 bits raise
`struct.error`. -/
def packI (value : Int) : Option Bytes := if 0 ≤ value ∧ value < 2 ^ 32 then some (littleEndian 4 value.toNat) else none

def encodeFrame (msgType reqId : Int) (payload : Bytes) : Option Bytes := do
  let type ← byteOf msgType
  let reqId ← packI reqId
  let length ← packI payload.length
  some (magic ++ [type, 0] ++ (reqId ++ length) ++ payload)

/-- The characters at which `str.splitlines` ends a line. -/
def isLineBreak (char : Char) : Bool :=
  char.toNat ∈ [0x0A, 0x0B, 0x0C, 0x0D, 0x1C, 0x1D, 0x1E, 0x85, 0x2028, 0x2029]

/-- The loop of `str.splitlines`, with the line it has begun. No empty line comes
after the last break, and a carriage return takes a newline with it. -/
def splitlinesFrom (line : List Char) : List Char → List (List Char)
  | [] => if line.isEmpty then [] else [line]
  | '\r' :: '\n' :: rest => line :: splitlinesFrom [] rest
  | char :: rest => if isLineBreak char then line :: splitlinesFrom [] rest else splitlinesFrom (line ++ [char]) rest

def splitlines (text : List Char) : List (List Char) := splitlinesFrom [] text

/-- `line.split("=", 1)`, for a line with an equals sign. -/
def splitRecord (line : List Char) : Option (List Char × List Char) :=
  if '=' ∈ line then
    let key := line.takeWhile (· ≠ '=')
    some (key, line.drop (key.length + 1))
  else none

/-- `parse_kv`. A later assignment stands before an earlier one. -/
def parseKv (payload : Bytes) : List (List Char × List Char) :=
  (splitlines (decodeReplacing payload)).foldl
    (fun out line => match splitRecord line with
      | some binding => binding :: out
      | none => out) []

end Luagent.Daemon

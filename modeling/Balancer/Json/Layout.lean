import Balancer.Value.Access

/-!
Values as JSON documents of ASCII characters.

A document is laid out on one line or with a part on each line, two blanks deeper for each container
around it. An empty container stays on its line. JSON has no points in time.
-/

namespace Balancer.Json

/-- Numbers as in other texts, but for two words. -/
def numberStyle : Decimal.Style := ⟨-4, 16, 2, "Infinity", "NaN"⟩

/-- The code units of a character in UTF-16. -/
def units (c : Char) : List Nat :=
  let n := c.toNat
  if n < 0x10000 then [n] else [0xD800 + (n - 0x10000) / 0x400, 0xDC00 + (n - 0x10000) % 0x400]

/-- A character as it stands in a string. -/
def escaped (c : Char) : List Char :=
  if c = '"' || c = '\\' then ['\\', c]
  else if c = '\n' then ['\\', 'n']
  else if c = '\r' then ['\\', 'r']
  else if c = '\t' then ['\\', 't']
  else if c = '\x08' then ['\\', 'b']
  else if c = '\x0c' then ['\\', 'f']
  else if 0x20 ≤ c.toNat && c.toNat < 0x7F then [c]
  else (units c).flatMap fun n => '\\' :: 'u' :: Text.hex 4 n

def string (s : String) : String := .ofList ('"' :: (s.toList.flatMap escaped ++ ['"']))

/-- What stands before each part at a depth, and between a key and its value. -/
structure Layout where
  lineBreak : Nat → String
  colon : String

namespace Layout

def oneLine : Layout := ⟨fun _ => "", ":"⟩

def indented : Layout := ⟨fun depth => .ofList ('\n' :: List.replicate (2 * depth) ' '), ": "⟩

/-- A container's parts between its brackets. -/
def enclose (l : Layout) (depth : Nat) (opening closing : String) (parts : List String) : String :=
  if parts.isEmpty then opening ++ closing
  else
    opening ++ ",".intercalate (parts.map fun p => l.lineBreak (depth + 1) ++ p) ++
      l.lineBreak depth ++ closing

mutual
/-- A value at a depth. -/
def writeAt (l : Layout) (depth : Nat) : Value → Checked String
  | .null => .ok "null"
  | .bool b => .ok (if b then "true" else "false")
  | .int n => (Value.int n).written
  | .real x => .ok (numberStyle.text x)
  | .text s => .ok (string s)
  | .list items => do return l.enclose depth "[" "]" (← writeItems l (depth + 1) items)
  | .record fields => do
    return l.enclose depth "\x7b" "\x7d" (← writeFields l (depth + 1) fields)
  | .moment t => misuse (.notWritable (.moment t))

def writeItems (l : Layout) (depth : Nat) : List Value → Checked (List String)
  | [] => .ok []
  | v :: r => do
    let first ← writeAt l depth v
    return first :: (← writeItems l depth r)

def writeFields (l : Layout) (depth : Nat) : List (String × Value) → Checked (List String)
  | [] => .ok []
  | (k, v) :: r => do
    let first ← writeAt l depth v
    return (string k ++ l.colon ++ first) :: (← writeFields l depth r)
end

/-- The document of a value. -/
def write (l : Layout) (v : Value) : Checked String := l.writeAt 0 v

end Layout

end Balancer.Json

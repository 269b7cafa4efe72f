/-!
# Reading UTF-8

Bytes are read one at a time by a machine that remembers the character under
way: how many bytes of it were read, how many are owed, and between which
bounds the next one must lie.  The bounds rule out overlong forms, surrogates
and code points above `0x10ffff`, so every character read is a scalar value.
-/

namespace ChartParsing.Text.Utf8

/-- Why a sequence of bytes is not UTF-8, and where the faulty character begins. -/
inductive Fault where
  /-- The first `length` bytes from `index` begin no character. -/
  | invalid (length index : Nat)
  /-- The bytes from `index` on are the beginning of a character that is cut off. -/
  | incomplete (index : Nat)
  deriving DecidableEq, Repr

def Fault.message : Fault → String
  | .invalid length index => s!"invalid utf-8 sequence of {length} bytes from index {index}"
  | .incomplete index => s!"incomplete utf-8 byte sequence from index {index}"

/-- A character of which some bytes are still owed. -/
structure Pending where
  seen : Nat
  owed : Nat
  /-- The least value the next byte may have. -/
  low : Nat
  /-- The greatest value the next byte may have. -/
  high : Nat
  code : Nat
  deriving DecidableEq, Repr

/-- What the first byte of a character of several bytes asks for. -/
def Pending.ofLead? (byte : Nat) : Option Pending :=
  if 0xc2 ≤ byte ∧ byte ≤ 0xdf then some ⟨1, 1, 0x80, 0xbf, byte - 0xc0⟩
  else if byte = 0xe0 then some ⟨1, 2, 0xa0, 0xbf, 0⟩
  else if byte = 0xed then some ⟨1, 2, 0x80, 0x9f, 0xd⟩
  else if 0xe1 ≤ byte ∧ byte ≤ 0xef then some ⟨1, 2, 0x80, 0xbf, byte - 0xe0⟩
  else if byte = 0xf0 then some ⟨1, 3, 0x90, 0xbf, 0⟩
  else if 0xf1 ≤ byte ∧ byte ≤ 0xf3 then some ⟨1, 3, 0x80, 0xbf, byte - 0xf0⟩
  else if byte = 0xf4 then some ⟨1, 3, 0x80, 0x8f, 4⟩
  else none

/-- The character under way after one more byte within its bounds. -/
def Pending.push (pending : Pending) (byte : Nat) : Pending :=
  ⟨pending.seen + 1, pending.owed - 1, 0x80, 0xbf, pending.code * 64 + (byte - 0x80)⟩

/-- Read bytes from `index` on, where a character that began earlier may be under way. -/
def decodeFrom (index : Nat) : Option Pending → List UInt8 → Except Fault (List Char)
  | none, [] => .ok []
  | some pending, [] => .error (.incomplete (index - pending.seen))
  | none, byte :: rest =>
      if byte.toNat < 0x80 then
        (decodeFrom (index + 1) none rest).map (Char.ofNat byte.toNat :: ·)
      else
        match Pending.ofLead? byte.toNat with
        | none => .error (.invalid 1 index)
        | some pending => decodeFrom (index + 1) (some pending) rest
  | some pending, byte :: rest =>
      if pending.low ≤ byte.toNat ∧ byte.toNat ≤ pending.high then
        let next := pending.push byte.toNat
        if next.owed = 0 then
          (decodeFrom (index + 1) none rest).map (Char.ofNat next.code :: ·)
        else
          decodeFrom (index + 1) (some next) rest
      else
        .error (.invalid pending.seen (index - pending.seen))

def decode (bytes : List UInt8) : Except Fault String :=
  (decodeFrom 0 none bytes).map String.ofList

end ChartParsing.Text.Utf8

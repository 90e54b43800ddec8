import DomainLocator.Address.Ipv4
import DomainLocator.Text.Hex

namespace DomainLocator.Address

structure Ipv6 where
  bits : BitVec 128
  deriving DecidableEq, Repr, Inhabited

namespace Ipv6

def octets (a : Ipv6) : Octets :=
  Octets.bigEndian 16 a.bits.toNat

def ofOctets (bs : Octets) : Ipv6 :=
  ⟨BitVec.ofNat 128 (Octets.ofBigEndian bs)⟩

def groups (a : Ipv6) : List Nat :=
  (List.range 8).reverse.map fun i => (a.bits.toNat >>> (16 * i)) % 65536

def ofGroups (gs : List Nat) : Ipv6 :=
  ⟨BitVec.ofNat 128 (gs.foldl (fun n g => n * 65536 + g) 0)⟩

def mapped? (a : Ipv6) : Option Ipv4 :=
  if a.bits.toNat >>> 32 = 0xffff then some ⟨UInt32.ofNat a.bits.toNat⟩ else none

def zeros (gs : List Nat) : Nat × Nat :=
  (List.range gs.length).foldl (fun best start =>
    let size := ((gs.drop start).takeWhile (· == 0)).length
    if size > best.2 then (start, size) else best) (0, 0)

def groupsText (gs : List Nat) : String :=
  String.intercalate ":" (gs.map Text.Hex.digits)

def toText (a : Ipv6) : String :=
  match a.mapped? with
  | some v4 => "::ffff:" ++ v4.toText
  | none =>
    let gs := a.groups
    let (start, size) := zeros gs
    if size > 1 then groupsText (gs.take start) ++ "::" ++ groupsText (gs.drop (start + size))
    else groupsText gs

def group? (cs : List Char) : Option Nat :=
  if cs.length ≤ 4 then Text.number? 16 cs else none

def groupsOf? (v4Allowed : Bool) : List (List Char) → Option (List Nat)
  | [] => some []
  | [piece] =>
    match Ipv4.ofChars? piece with
    | some v4 => if v4Allowed then some [v4.bits.toNat / 65536, v4.bits.toNat % 65536] else none
    | none => (group? piece).map ([·])
  | piece :: pieces => do
    let g ← group? piece
    let gs ← groupsOf? v4Allowed pieces
    some (g :: gs)

def readGroups? (v4Allowed : Bool) (cs : List Char) : Option (List Nat) :=
  if cs.isEmpty then some [] else groupsOf? v4Allowed (Text.Separated.pieces ':' cs)

def atGap? : List Char → Option (List Char × List Char)
  | [] => none
  | ':' :: ':' :: rest => some ([], rest)
  | c :: rest => (atGap? rest).map fun (front, back) => (c :: front, back)

def ofChars? (cs : List Char) : Option Ipv6 :=
  match atGap? cs with
  | none => do
    let gs ← groupsOf? true (Text.Separated.pieces ':' cs)
    if gs.length = 8 then some (ofGroups gs) else none
  | some (front, back) => do
    let high ← readGroups? false front
    let low ← readGroups? true back
    let missing := 8 - (high.length + low.length)
    if high.length + low.length ≤ 7 then some (ofGroups (high ++ List.replicate missing 0 ++ low)) else none

end Ipv6

end DomainLocator.Address

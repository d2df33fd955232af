/-!
# Sets of characters

A set of characters is an increasing list of separate code point ranges.  Case
and the named classes are those of ASCII.
-/

namespace Chunking.Pattern

/-- The code points from `first` to `last`, both included. -/
structure CodeRange where
  first : Nat
  last : Nat
deriving DecidableEq

structure CharSet where
  ranges : List CodeRange
deriving DecidableEq

namespace CodeRange

def single (c : Char) : CodeRange :=
  ⟨c.toNat, c.toNat⟩

def holds (range : CodeRange) (code : Nat) : Bool :=
  range.first ≤ code && code ≤ range.last

/-- The part of a range between two code points, moved up by `up` and down by `down`. -/
def moved (range : CodeRange) (low high up down : Nat) : List CodeRange :=
  let first := max range.first low
  let last := min range.last high
  if first ≤ last then [⟨first + up - down, last + up - down⟩] else []

/-- The letters of a range in upper case, or in lower case if it has none to raise. -/
def otherCase (range : CodeRange) : List CodeRange :=
  let raised := range.moved 0x61 0x7A 0 0x20
  if raised.isEmpty then range.moved 0x41 0x5A 0x20 0 else raised

end CodeRange

namespace CharSet

def maxCode : Nat := 0x10FFFF

def contains (set : CharSet) (c : Char) : Bool :=
  set.ranges.any fun range => range.holds c.toNat

/-- Put a range into an increasing list, merging it with the ranges it meets. -/
def insertRange (range : CodeRange) : List CodeRange → List CodeRange
  | [] => [range]
  | head :: tail =>
      if range.last + 1 < head.first then range :: head :: tail
      else if head.last + 1 < range.first then head :: insertRange range tail
      else insertRange ⟨min range.first head.first, max range.last head.last⟩ tail

def ofRanges (ranges : List CodeRange) : CharSet :=
  ⟨ranges.foldl (fun merged range => insertRange range merged) []⟩

/-- The ranges between those of an increasing list, from `next` on. -/
def gaps (next : Nat) : List CodeRange → List CodeRange
  | [] => if next ≤ maxCode then [⟨next, maxCode⟩] else []
  | range :: rest =>
      if next < range.first then ⟨next, range.first - 1⟩ :: gaps (range.last + 1) rest
      else gaps (range.last + 1) rest

def complement (set : CharSet) : CharSet :=
  ⟨gaps 0 set.ranges⟩

/--
The set, and its letters in the other case.  Of a range with letters in both cases,
only those in lower case are added in upper case.
-/
def withOtherCase (set : CharSet) : CharSet :=
  ofRanges (set.ranges ++ set.ranges.flatMap CodeRange.otherCase)

/-! ## Named sets -/

def any : CharSet := ⟨[⟨0, maxCode⟩]⟩

def digit : CharSet := ⟨[⟨0x30, 0x39⟩]⟩

def blank : CharSet := ⟨[⟨0x9, 0xD⟩, ⟨0x20, 0x20⟩]⟩

def wordChar : CharSet := ⟨[⟨0x30, 0x39⟩, ⟨0x41, 0x5A⟩, ⟨0x5F, 0x5F⟩, ⟨0x61, 0x7A⟩]⟩

def named? (name : String) : Option CharSet :=
  match name with
  | "alnum" => some ⟨[⟨0x30, 0x39⟩, ⟨0x41, 0x5A⟩, ⟨0x61, 0x7A⟩]⟩
  | "alpha" => some ⟨[⟨0x41, 0x5A⟩, ⟨0x61, 0x7A⟩]⟩
  | "ascii" => some ⟨[⟨0x0, 0x7F⟩]⟩
  | "blank" => some ⟨[⟨0x9, 0x9⟩, ⟨0x20, 0x20⟩]⟩
  | "cntrl" => some ⟨[⟨0x0, 0x1F⟩, ⟨0x7F, 0x7F⟩]⟩
  | "digit" => some digit
  | "graph" => some ⟨[⟨0x21, 0x7E⟩]⟩
  | "lower" => some ⟨[⟨0x61, 0x7A⟩]⟩
  | "print" => some ⟨[⟨0x20, 0x7E⟩]⟩
  | "punct" => some ⟨[⟨0x21, 0x2F⟩, ⟨0x3A, 0x40⟩, ⟨0x5B, 0x60⟩, ⟨0x7B, 0x7E⟩]⟩
  | "space" => some blank
  | "upper" => some ⟨[⟨0x41, 0x5A⟩]⟩
  | "word" => some wordChar
  | "xdigit" => some ⟨[⟨0x30, 0x39⟩, ⟨0x41, 0x46⟩, ⟨0x61, 0x66⟩]⟩
  | _ => none

end CharSet

end Chunking.Pattern

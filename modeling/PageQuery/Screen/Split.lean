/-!
Splitting a length among parts, as the layouts of the terminal library do.

Each part has a claim: a least length, a fixed length, or a percentage of the whole. Claims are served
by rank: least lengths before fixed ones, fixed ones before percentages. What is left in the end goes
to the part with a least length.

Where the claims of a rank exceed what is left, they share it: no part gets more than it claims,
nothing is kept back, and neighbouring parts come out as equal as that allows. `pour` gives out what is
left in turns. A turn raises the run of neighbours whose growth adds least to the differences between
neighbours, unit for unit, until a part has all it claims or a longer neighbour is reached.

Boundaries are rounded to hundredths and then to whole units, a half upwards.
-/

namespace PageQuery.Screen

/-- What a part of a split asks for. -/
inductive Claim where
  | atLeast (n : Nat)
  | exactly (n : Nat)
  | percent (n : Nat)
  deriving DecidableEq, Repr

namespace Claim

/-- Who is served first. -/
def rank : Claim → Nat
  | atLeast _ => 0
  | exactly _ => 1
  | percent _ => 2

/-- The claim on a whole, in hundredths. -/
def hundredths (whole : Nat) : Claim → Nat
  | atLeast n => 100 * n
  | exactly n => 100 * n
  | percent n => n * whole

end Claim

/-! ## 1. Sharing -/

def sumOf (lengths : List Rat) : Rat := lengths.foldr (· + ·) 0

/-- The least of some lengths and one more. -/
def leastOf (lengths : List Rat) (length : Rat) : Rat :=
  lengths.foldl (fun least x => if x < least then x else least) length

/-- A part while a rank is served: what it has, and up to where it may grow. -/
structure Part where
  length : Rat
  limit : Rat
  deriving DecidableEq, Repr

/-- How much a part may still grow. -/
def Part.room (p : Part) : Rat := p.limit - p.length

/-- A run of neighbouring parts: the first of them, and how many more there are. -/
structure Block where
  first : Nat
  more : Nat
  deriving DecidableEq, Repr

namespace Block

def size (b : Block) : Nat := b.more + 1

/-- The parts of a block. -/
def members (b : Block) (parts : List Part) : List Part := (parts.drop b.first).take b.size

/-- Every part of the block may still grow. -/
def isOpen (parts : List Part) (b : Block) : Bool := (b.members parts).all fun p => 0 < p.room

/-- By how much the neighbours at the two ends of a block are longer than the parts at these ends. -/
def leads (b : Block) (parts : List Part) : List Rat :=
  let lead : Option Part → Option Part → List Rat
    | some neighbour, some edge => [neighbour.length - edge.length]
    | _, _ => []
  lead (parts.take b.first).getLast? (b.members parts).head? ++
    lead (parts.drop (b.first + b.size)).head? (b.members parts).getLast?

/-- What each unit given to a block adds to the differences between neighbours. -/
def cost (parts : List Part) (b : Block) : Rat :=
  sumOf ((b.leads parts).map fun lead => if 0 < lead then -1 else 1) / b.size

/-- How far a block can be raised in one turn, with this much left. -/
def reach (b : Block) (parts : List Part) (left : Rat) : Rat :=
  leastOf ((b.members parts).map Part.room ++ (b.leads parts).filter (0 < ·)) (left / b.size)

/-- Raise every part of a block. -/
def raise (b : Block) (rise : Rat) (parts : List Part) : List Part :=
  parts.take b.first ++ (b.members parts).map (fun p => { p with length := p.length + rise }) ++
    parts.drop (b.first + b.size)

end Block

/-- All runs among some parts, the earlier ones first. -/
def blocks (count : Nat) : List Block :=
  (List.range count).flatMap fun first =>
    (List.range (count - first)).map fun more => ⟨first, more⟩

/-- The block whose turn it is: the first of those that cost least. -/
def cheapest? (parts : List Part) : Option Block :=
  ((blocks parts.length).filter (Block.isOpen parts)).foldl (fun best b =>
    match best with
    | none => some b
    | some c => if b.cost parts < c.cost parts then some b else some c) none

/-- Give out what is left in a number of turns. -/
def pour : Nat → Rat → List Part → List Part
  | 0, _, parts => parts
  | turns + 1, left, parts =>
    match cheapest? parts with
    | none => parts
    | some b =>
      let rise := b.reach parts left
      if 0 < rise then pour turns (left - rise * b.size) (b.raise rise parts) else parts

/-- More turns than are needed: each gives out the rest, gives a part all it claims, or brings a block
up to a longer neighbour. -/
def turnsFor (parts : List Part) : Nat := (parts.length + 1) * (parts.length + 1)

/-! ## 2. Splits -/

/-- What has been given to a claim, as a part that can only grow while the claim's rank is served. -/
def Claim.part (rank whole : Nat) (c : Claim) (given : Rat) : Part :=
  ⟨given, if c.rank = rank then c.hundredths whole else given⟩

/-- Serve the claims of one rank. -/
def serve (rank whole : Nat) (claims : List Claim) (given : List Rat) : List Rat :=
  let left := 100 * whole - sumOf given
  let parts := List.zipWith (Claim.part rank whole) claims given
  if sumOf (parts.map Part.room) ≤ left then parts.map Part.limit
  else (pour (turnsFor parts) left parts).map Part.length

/-- Give what is left to the first part with a least length. -/
def giveRest (left : Rat) : List Claim → List Rat → List Rat
  | .atLeast _ :: _, length :: rest => (length + left) :: rest
  | _ :: claims, length :: rest => length :: giveRest left claims rest
  | _, lengths => lengths

/-- The lengths of the parts in hundredths. -/
def shares (whole : Nat) (claims : List Claim) : List Rat :=
  let lengths := [0, 1, 2].foldl (fun given rank => serve rank whole claims given)
    (claims.map fun _ => 0)
  giveRest (100 * whole - sumOf lengths) claims lengths

/-- Hundredths rounded to whole units. -/
def rounded (x : Rat) : Nat := ((x + 1 / 2).floor.toNat + 50) / 100

/-- Where each part starts and how long it is, from a boundary on, with gaps between the parts. -/
def placesFrom (gap : Nat) : Rat → List Rat → List (Nat × Nat)
  | _, [] => []
  | start, n :: rest =>
    (rounded start, rounded (start + n) - rounded start) ::
      placesFrom gap (start + n + 100 * gap) rest

/-- Split a length: where each part starts and how long it is. -/
def split (whole : Nat) (claims : List Claim) : List (Nat × Nat) :=
  placesFrom 0 0 (shares whole claims)

/-- The columns of a table: fixed widths with a gap of one between them. The gaps come before the
columns. -/
def tableColumns (whole : Nat) (widths : List Nat) : List (Nat × Nat) :=
  placesFrom 1 0 (shares (whole - (widths.length - 1)) (widths.map .exactly))

end PageQuery.Screen

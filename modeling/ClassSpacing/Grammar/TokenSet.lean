/-!
# Sets of tokens

The tokens of a language are numbered. A set of them is a number whose bits tell which tokens are in
it, so that unions are cheap.
-/

namespace ClassSpacing.Grammar

/-- A set of token numbers: bit `n` tells whether `n` is in it. -/
structure TokenSet where
  bits : Nat := 0
deriving Repr, BEq, Inhabited

namespace TokenSet

instance : Hashable TokenSet where
  hash s := mixHash (hash s.bits) (mixHash (hash (s.bits >>> 64)) (hash (s.bits >>> 128)))

instance : EmptyCollection TokenSet := ⟨⟨0⟩⟩

instance : Union TokenSet := ⟨fun s t => ⟨s.bits ||| t.bits⟩⟩

/-- The set of one token. -/
def singleton (n : Nat) : TokenSet := ⟨1 <<< n⟩

/-- Whether a token is in a set. -/
def contains (s : TokenSet) (n : Nat) : Bool := s.bits.testBit n

/-- Whether a set has no tokens. -/
def isEmpty (s : TokenSet) : Bool := s.bits == 0

/-- Whether two sets have a token in common. -/
def meets (s t : TokenSet) : Bool := s.bits &&& t.bits != 0

/-- The set of some tokens. -/
def ofList (ns : List Nat) : TokenSet :=
  ns.foldl (fun s n => s ∪ singleton n) ∅

theorem contains_union (s t : TokenSet) (n : Nat) :
    (s ∪ t).contains n = (s.contains n || t.contains n) :=
  Nat.testBit_or s.bits t.bits n

theorem contains_empty (n : Nat) : (∅ : TokenSet).contains n = false :=
  Nat.zero_testBit n

end TokenSet

end ClassSpacing.Grammar

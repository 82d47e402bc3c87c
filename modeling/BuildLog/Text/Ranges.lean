/-! Sets of characters given as ascending closed ranges of code points. -/
namespace BuildLog.Text

abbrev Ranges := Array (Nat × Nat)

def Ranges.has (table : Ranges) (c : Char) : Bool :=
  table.any fun (first, last) => first ≤ c.toNat && c.toNat ≤ last

end BuildLog.Text

import AirBnbClone.DeviceCalls

/-!
# The items of the list screens

`BaseItemModel` and its subclasses, without the icon. How a double is read and printed is a
parameter of the screens: doubles are exact rationals here, and nothing depends on their digits.
-/

namespace AirBnbClone

/-- `double.tryParse`, `toString` and `toStringAsFixed(0)`. -/
structure DoubleText where
  tryParse : String → Option ℚ
  toString : ℚ → String
  toStringAsFixed : ℚ → String

/-- Whole amounts only. -/
def wholeText : DoubleText where
  tryParse s := s.toInt?.map (fun n => (n : ℚ))
  toString q := toString q.num ++ ".0"
  toStringAsFixed q := toString q.num

structure BaseItemModel (α : Type) where
  id : String
  tag : String := ""
  imageUrl : String := ""
  title : String := ""
  des : String := ""
  object : Option α := none

structure PostingGridItemModel extends BaseItemModel (Managed Posting) where
  price : String := ""
  rating : ℚ := 0
  ratingStr : String := ""
  isFavorite : Bool := false

structure ReviewItemModel extends BaseItemModel (Managed Review) where
  rating : ℚ := 0

structure TripGridItemModel extends BaseItemModel Posting where
  price : String := ""
  bookedDatesDes : String := ""

/-- `padLeft(width, '0')`. -/
def padLeft (width : ℕ) (n : ℤ) : String :=
  let text := toString n
  String.ofList (List.replicate (width - text.length) '0') ++ text

end AirBnbClone

import Playfield.Grid.Canvas

/-! The `std::ostream` the rasterizers write their file through: its bytes, and the formatting state each `<<` reads. -/

namespace Playfield

/-- The bytes of a string literal of the source, each character a C++ `char`. -/
def text (s : String) : List Glyph := s.toList.map glyph

/-- The byte `'\n'` that ends every line of the file. -/
def newline : Glyph := glyph '\n'

/-- The characters `s` right-aligned in a field of the given width, `fill` on their left. -/
def padLeft (width : ℕ) (fill : Glyph) (s : List Glyph) : List Glyph :=
  List.replicate (width - s.length) fill ++ s

/-- Padding never cuts: the field is as wide as the width or the characters, whichever is wider. -/
@[simp] theorem length_padLeft (width : ℕ) (fill : Glyph) (s : List Glyph) :
    (padLeft width fill s).length = max width s.length := by
  simp only [padLeft, List.length_append, List.length_replicate]
  omega

/-- How `<<` writes a `double`, in fixed or default notation at a precision; no notation writes a newline. -/
structure DoubleFormat (α : Type*) where
  render : Bool → ℕ → α → List Glyph
  no_newline : ∀ fixed precision v, newline ∉ render fixed precision v

/-- An `std::ostream`: what it has written, and the formatting state the next `<<` reads. -/
@[ext] structure OStream where
  out : List Glyph
  width : ℕ
  fill : Glyph
  fixed : Bool
  precision : ℕ

namespace OStream

/-- A newly opened `std::ofstream`: empty, width 0, fill `' '`, default notation, precision 6. -/
def fresh : OStream := ⟨[], 0, glyph ' ', false, 6⟩

/-- A formatted output of the characters `s`: padded to the width, which falls back to 0. -/
@[simps] def put (os : OStream) (s : List Glyph) : OStream :=
  { os with out := os.out ++ padLeft os.width os.fill s, width := 0 }

/-- `<< std::setw(n)`, for the next formatted output only. -/
@[simps] def setw (os : OStream) (n : ℕ) : OStream := { os with width := n }

/-- `<< std::setfill(c)`, which lasts. -/
@[simps] def setfill (os : OStream) (c : Char) : OStream := { os with fill := glyph c }

/-- `<< std::fixed`, which lasts. -/
@[simps] def setFixed (os : OStream) : OStream := { os with fixed := true }

/-- `<< std::setprecision(n)`, which lasts. -/
@[simps] def setprecision (os : OStream) (n : ℕ) : OStream := { os with precision := n }

/-- `<< z` for an integer: its decimal digits, behind a `-` when it is negative. -/
def putInt (os : OStream) (z : ℤ) : OStream := os.put (text (toString z))

/-- `<< v` for a `double`, in the notation and at the precision the stream holds. -/
def putReal {α : Type*} (format : DoubleFormat α) (os : OStream) (v : α) : OStream :=
  os.put (format.render os.fixed os.precision v)

/-- `<< s` for a string literal or an `std::string`. -/
def putStr (os : OStream) (s : String) : OStream := os.put (text s)

/-- Between two statements of a writer: no width pending, and the fill a space. -/
def Settled (os : OStream) : Prop := os.width = 0 ∧ os.fill = glyph ' '

variable {os : OStream}

/-- With no width pending, an output appends its characters as they are. -/
theorem put_of_unset (unset : os.width = 0) (s : List Glyph) :
    os.put s = { os with out := os.out ++ s } := by
  ext <;> simp [padLeft, unset]

/-- A string output between statements appends the string. -/
theorem putStr_settled (settled : os.Settled) (s : String) :
    os.putStr s = { os with out := os.out ++ text s } :=
  put_of_unset settled.1 _

/-- An integer output between statements appends its digits. -/
theorem putInt_settled (settled : os.Settled) (z : ℤ) :
    os.putInt z = { os with out := os.out ++ text (toString z) } :=
  put_of_unset settled.1 _

/-- A `double` output between statements appends it in the stream's notation. -/
theorem putReal_settled {α : Type*} (format : DoubleFormat α) (settled : os.Settled) (v : α) :
    os.putReal format v = { os with out := os.out ++ format.render os.fixed os.precision v } :=
  put_of_unset settled.1 _

/-- A loop whose every pass appends a piece and keeps the notation appends the pieces in order. -/
theorem foldl_appends {β : Type*} {step : OStream → β → OStream} {piece : Bool → ℕ → β → List Glyph}
    (each : ∀ os x, os.Settled → step os x = { os with out := os.out ++ piece os.fixed os.precision x }) :
    ∀ (xs : List β) (os : OStream), os.Settled →
      xs.foldl step os = { os with out := os.out ++ xs.flatMap (piece os.fixed os.precision) }
  | [], os, _ => by simp
  | x :: rest, os, settled => by
    -- The first pass leaves the stream settled, and the rest of the loop appends behind it.
    rw [List.foldl_cons, each os x settled,
      foldl_appends each rest { os with out := os.out ++ piece os.fixed os.precision x } settled]
    simp [List.append_assoc]

end OStream

section Digits

/-- Every character `Nat.toDigits` produces in base ten is one of the ten digits. -/
theorem mem_toDigitsCore {c : Char} :
    ∀ (fuel n : ℕ) (acc : List Char), c ∈ Nat.toDigitsCore 10 fuel n acc →
      c ∈ acc ∨ ∃ d < 10, c = Nat.digitChar d := by
  -- Each round of the conversion pushes the digit of `n % 10` in front of what it had.
  intro fuel
  induction fuel with
  | zero => exact fun _ _ member => .inl member
  | succ fuel ih =>
    intro n acc member
    have digit : ∃ d < 10, Nat.digitChar (n % 10) = Nat.digitChar d := ⟨n % 10, Nat.mod_lt _ (by omega), rfl⟩
    simp only [Nat.toDigitsCore] at member
    split at member
    · rcases List.mem_cons.mp member with rfl | old
      · exact .inr digit
      · exact .inl old
    · rcases ih _ _ member with pushed | found
      · rcases List.mem_cons.mp pushed with rfl | old
        · exact .inr digit
        · exact .inl old
      · exact .inr found

/-- No decimal digit is the newline byte. -/
theorem digitChar_ne_newline {d : ℕ} (small : d < 10) : glyph (Nat.digitChar d) ≠ newline := by
  -- Ten characters, each checked.
  revert d
  decide

/-- A printed integer never holds a newline byte. -/
theorem newline_not_mem_int (z : ℤ) : newline ∉ text (toString z) := by
  -- The characters are the digits of the magnitude, behind at most a `-`.
  have digits : ∀ n : ℕ, newline ∉ (Nat.repr n).toList.map glyph := by
    intro n member
    obtain ⟨c, inside, same⟩ := List.mem_map.mp member
    rcases mem_toDigitsCore (n + 1) n [] inside with absent | ⟨d, small, rfl⟩
    · exact absurd absent (List.not_mem_nil c)
    · exact digitChar_ne_newline small same
  cases z with
  | ofNat n => exact digits n
  | negSucc n =>
    intro member
    change newline ∈ ('-' :: (Nat.repr (n + 1)).toList).map glyph at member
    rcases List.mem_cons.mp (List.map_cons glyph _ _ ▸ member) with minus | rest
    · exact absurd minus (by decide)
    · exact digits (n + 1) rest

/-- A nonnegative integer below `10 ^ e` prints in at most `e` characters. -/
theorem length_text_int_le {z : ℤ} {e : ℕ} (positive : 0 < e) (nonneg : 0 ≤ z) (small : z < 10 ^ e) :
    (text (toString z)).length ≤ e := by
  -- A nonnegative integer prints as the natural number it is.
  lift z to ℕ using nonneg
  have bounded := Nat.repr_length z e positive (by exact_mod_cast small)
  simpa [text] using bounded

end Digits

end Playfield

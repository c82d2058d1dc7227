/-!
Blank characters: the ones with the Unicode property `White_Space`.

Tag names and expressions lose every blank (`squeeze`); keys, fields and numbers
lose the blanks at their two ends (`trim`). Zero-width characters such as U+200B
and U+FEFF do not have the property, nor do the separators U+001C to U+001F.
-/

namespace Roster.Text

/-- `c` has the property `White_Space`. -/
def isBlank (c : Char) : Bool :=
  let n := c.toNat
  (9 ≤ n && n ≤ 13) || n == 0x20 || n == 0x85 || n == 0xA0 || n == 0x1680 ||
    (0x2000 ≤ n && n ≤ 0x200A) || n == 0x2028 || n == 0x2029 || n == 0x202F ||
    n == 0x205F || n == 0x3000

/-- `s` without its blanks. -/
def squeezeChars (s : List Char) : List Char :=
  s.filter fun c => !isBlank c

/-- `s` without the blanks before its first and after its last other character. -/
def trimChars (s : List Char) : List Char :=
  ((s.dropWhile isBlank).reverse.dropWhile isBlank).reverse

/-- `s` without its blanks. -/
def squeeze (s : String) : String :=
  .ofList (squeezeChars s.toList)

/-- `s` without the blanks at its two ends. -/
def trim (s : String) : String :=
  .ofList (trimChars s.toList)

@[simp] theorem squeezeChars_append (s t : List Char) :
    squeezeChars (s ++ t) = squeezeChars s ++ squeezeChars t :=
  List.filter_append ..

@[simp] theorem squeezeChars_squeezeChars (s : List Char) :
    squeezeChars (squeezeChars s) = squeezeChars s := by
  simp [squeezeChars]

/-- A text without a blank at either end is trimmed already. -/
theorem trimChars_of_ends {cs : List Char} (hfirst : ∀ c ∈ cs.head?, isBlank c = false)
    (hlast : ∀ c ∈ cs.getLast?, isBlank c = false) : trimChars cs = cs := by
  have hstart : ∀ {ds : List Char}, (∀ c ∈ ds.head?, isBlank c = false) →
      ds.dropWhile isBlank = ds := by
    intro ds hds
    cases ds with
    | nil => rfl
    | cons d ds => exact List.dropWhile_cons_of_neg (by simp [hds d rfl])
  rw [trimChars, hstart hfirst, hstart (by rwa [List.head?_reverse]), List.reverse_reverse]

end Roster.Text

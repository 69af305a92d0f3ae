import SpecLint.Number.Digits
import SpecLint.Text.Blank
import SpecLint.Text.Case
import SpecLint.Text.EmojiNames
import SpecLint.Text.Split

/-!
# Emoji by name

An emoji may be written as its name between colons, in any case of letters. Behind the name may
stand that it be shown as text or as a picture. What is no name stays as it is written.
-/
namespace SpecLint.Text

/-- The entry of a name in lines of entries. -/
def entryIn? (lines : List String) (name : List Char) : Option (List Char) :=
  let lead := name ++ ['=']
  lines.findSome? fun line =>
    ((splitOn ' ' line.toList).find? fun entry => lead.isPrefixOf entry).map (·.drop lead.length)

/-- The characters of an entry, and whether they have skin tones. -/
def emojiOfEntry (entry : List Char) : List Char × Bool :=
  let codes := entry.takeWhile (· ≠ '!')
  ((splitOn '.' codes).map fun code => Char.ofNat (Number.valueIn 16 code),
    codes.length < entry.length)

/-- The codes of skin tones by the ending of a name. -/
def skinTones : List (String × Nat) := [
  ("_medium-light_skin_tone", 0x1F3FC), ("_medium-dark_skin_tone", 0x1F3FE),
  ("_light_skin_tone", 0x1F3FB), ("_medium_skin_tone", 0x1F3FD), ("_dark_skin_tone", 0x1F3FF)]

/-- An emoji with a skin tone, which takes the place of a sign that it be shown as a picture. -/
def withTone (tone : Char) : List Char → List Char
  | first :: '\uFE0F' :: rest => first :: tone :: rest
  | first :: rest => first :: tone :: rest
  | [] => []

/-- What stands before an ending, if the name has it. -/
def beforeEnding? (ending : String) (name : List Char) : Option (List Char) :=
  if ending.toList.isSuffixOf name then some (name.take (name.length - ending.length)) else none

/-- The emoji of a name that ends in a skin tone. -/
def tonedEmoji? (name : List Char) : Option (List Char) :=
  skinTones.findSome? fun (ending, tone) => do
    let (emoji, toned) := emojiOfEntry (← entryIn? emojiLines (← beforeEnding? ending name))
    if toned then some (withTone (Char.ofNat tone) emoji) else none

/-- The flag of a country, made of the letters for it. -/
def flag? (name : List Char) : Option (List Char) :=
  let lead := "flag_for_".toList
  let country := if lead.isPrefixOf name then name.drop lead.length else name
  (entryIn? flagLines country).map fun letters =>
    letters.map fun letter => Char.ofNat (0x1F1E6 + (letter.toNat - 65))

/-- The emoji of a name. -/
def emojiNamed? (name : List Char) : Option (List Char) :=
  (((entryIn? emojiLines name).map fun entry => (emojiOfEntry entry).1).or (tonedEmoji? name)).or
    (flag? name)

/-- How an emoji may be shown, by what is written behind its name. -/
def emojiVariants : List (String × Char) := [("-text", '\uFE0E'), ("-emoji", '\uFE0F')]

/-- What is written between two colons, as an emoji. -/
def emojiWritten? (written : List Char) : Option (List Char) :=
  let lowered := lowerAfter []
  let varied := emojiVariants.findSome? fun (ending, variant) =>
    (beforeEnding? ending written).map fun name => (name, [variant])
  let (name, variant) := varied.getD (written, [])
  (emojiNamed? (lowered name)).map (· ++ variant)

/-- The text with its emoji. Behind a colon, the name so far is given in reverse. -/
def withEmojiFrom : Option (List Char) → List Char → List Char
  | none, [] => []
  | some name, [] => ':' :: name.reverse
  | none, c :: rest =>
    if c = ':' then withEmojiFrom (some []) rest else c :: withEmojiFrom none rest
  | some name, c :: rest =>
    if c = ':' then
      (emojiWritten? name.reverse).getD (':' :: (name.reverse ++ [':'])) ++ withEmojiFrom none rest
    else if isBlank c then ':' :: (name.reverse ++ c :: withEmojiFrom none rest)
    else withEmojiFrom (some (c :: name)) rest

def withEmoji (text : List Char) : List Char := withEmojiFrom none text

/-- A text without colons has no emoji in it. -/
theorem withEmoji_eq_self (text : List Char) (absent : ':' ∉ text) : withEmoji text = text := by
  simp only [withEmoji]
  induction text with
  | nil => rfl
  | cons c rest ih =>
    simp only [List.mem_cons, not_or] at absent
    have apart : c ≠ ':' := fun same => absent.1 same.symm
    simp [withEmojiFrom, apart, ih absent.2]

end SpecLint.Text

import Mathlib.Data.List.DropRight
import FactoryRegistry.Config.Loader
import FactoryRegistry.Proofs.Config.Precedence
import FactoryRegistry.Proofs.Text.Lines

/-!
# Settings files written and read

A settings file is written with one setting on a line, the value in quotation marks and blanks
around key and value, between lines that set nothing. Reading it gives the settings back in order
(`readSettings_written`), and so does a loader that is given the name of the file.

What a setting has to keep clear of is part of `Setting`. A key may be empty, and quotation marks,
`=` and `#` may stand inside a value.
-/

namespace FactoryRegistry.Config

open Text

/-! ## What is written -/

/-- A key and a value that a line can hold. -/
structure Setting where
  /-- The key. -/
  key : String
  /-- The value. -/
  value : String
  /-- The key is part of one line. -/
  key_inline : Inline key.toList
  /-- The first `=` of a line ends the key. -/
  key_unequal : '=' ∉ key.toList
  /-- There is no blank at either end of the key. -/
  key_bare : Bare isBlank key.toList
  /-- The key does not make the line a remark. -/
  key_unremarked : key.toList.head? ≠ some '#'
  /-- The value is part of one line. -/
  value_inline : Inline value.toList
  /-- There is no quotation mark at either end of the value. -/
  value_bare : Bare isValueQuote value.toList

/-- The setting as it is read. -/
def Setting.pair (s : Setting) : String × String := (s.key, s.value)

/-- Blanks in a line. -/
structure Spacing where
  /-- The characters. -/
  text : List Char
  /-- They are blank. -/
  blank : ∀ c ∈ text, isBlank c = true
  /-- They end no line. -/
  inline : Inline text

/-- No blanks. -/
def Spacing.none : Spacing := ⟨[], List.forall_mem_nil _, List.forall_mem_nil _⟩

/-- One blank. -/
def Spacing.one (c : Char) (blank : isBlank c = true) (inline : isLineBoundary c = false) :
    Spacing :=
  ⟨[c], List.forall_mem_singleton.2 blank, List.forall_mem_singleton.2 inline⟩

/-- The quotation mark around a value. -/
inductive QuoteMark where
  /-- An apostrophe. -/
  | single
  /-- A double quotation mark. -/
  | double

/-- The character of a quotation mark. -/
def QuoteMark.char : QuoteMark → Char
  | single => '\''
  | double => '"'

/-- A setting on a line of its own. -/
structure SettingLine where
  /-- The setting. -/
  setting : Setting
  /-- The mark around the value. -/
  mark : QuoteMark
  /-- The blanks around the key. -/
  aroundKey : Spacing × Spacing
  /-- The blanks around the value and its marks. -/
  aroundValue : Spacing × Spacing

namespace SettingLine

variable (l : SettingLine)

/-- The line up to the `=`. -/
def left : List Char :=
  l.aroundKey.1.text ++ (l.setting.key.toList ++ l.aroundKey.2.text)

/-- The value in its quotation marks. -/
def quoted : List Char :=
  [l.mark.char] ++ (l.setting.value.toList ++ [l.mark.char])

/-- The line after the `=`. -/
def right : List Char :=
  l.aroundValue.1.text ++ (l.quoted ++ l.aroundValue.2.text)

/-- The line. -/
def text : List Char :=
  l.left ++ '=' :: l.right

end SettingLine

/-- A line of a settings file. -/
inductive SettingsLine where
  /-- A setting. -/
  | setting (l : SettingLine)
  /-- A blank line. -/
  | blank (s : Spacing)
  /-- A line that begins with `#`, maybe after blanks. -/
  | comment (s : Spacing) (cs : List Char) (inline : Inline cs)
  /-- A line without `=`. -/
  | plain (cs : List Char) (inline : Inline cs) (h : '=' ∉ cs)

namespace SettingsLine

/-- The characters of a line. -/
def text : SettingsLine → List Char
  | setting l => l.text
  | blank s => s.text
  | comment s cs _ => s.text ++ '#' :: cs
  | plain cs _ _ => cs

/-- The setting of a line, if it is one. -/
def pair? : SettingsLine → Option (String × String)
  | setting l => some l.setting.pair
  | _ => none

end SettingsLine

/-- A settings file. -/
structure SettingsFile where
  /-- The lines that something ends. -/
  lines : List (SettingsLine × LineEnd)
  /-- What stands after them, which may be an empty line. -/
  last : SettingsLine

namespace SettingsFile

/-- The characters of a settings file. -/
def characters (f : SettingsFile) : List Char :=
  f.lines.flatMap (fun (l, e) => l.text ++ e.text) ++ f.last.text

/-- The text of a settings file. -/
def text (f : SettingsFile) : String :=
  String.ofList f.characters

/-- The settings in a settings file, in order. -/
def pairs (f : SettingsFile) : List (String × String) :=
  f.lines.filterMap (fun (l, _) => l.pair?) ++ f.last.pair?.toList

end SettingsFile

/-! ## One line -/

namespace SettingLine

variable (l : SettingLine)

theorem isValueQuote_mark : isValueQuote l.mark.char = true := by
  cases l.mark <;> rfl

theorem isBlank_mark : isBlank l.mark.char = false := by
  cases l.mark <;> decide

/-- No equals sign stands on the left side of a line, so the first one ends it. -/
theorem unequal_left : '=' ∉ l.left := by
  have hspacing : ∀ s : Spacing, '=' ∉ s.text := fun s h =>
    absurd (s.blank '=' h) (by decide)
  simp [left, hspacing, l.setting.key_unequal]

/-- Without the blanks around it the left side is the key. -/
theorem strip_left : stripWhere isBlank l.left = l.setting.key.toList :=
  stripWhere_pad l.aroundKey.1.blank l.setting.key_bare l.aroundKey.2.blank

theorem dropTrailing_right :
    dropTrailing isBlank l.right = l.aroundValue.1.text ++ l.quoted := by
  rw [right, ← List.append_assoc]
  refine dropTrailing_append_of_last l.aroundValue.2.blank ?_
  intro c hc
  have hlast : (l.aroundValue.1.text ++ l.quoted).getLast? = some l.mark.char := by
    rw [quoted, ← List.append_assoc, ← List.append_assoc, List.getLast?_concat]
  rw [← Option.some.inj (hlast.symm.trans hc)]
  exact l.isBlank_mark

/-- The value between its marks has no blanks at its ends. -/
theorem bare_quoted : Bare isBlank l.quoted where
  head c hc := by
    rw [← Option.some.inj hc]
    exact l.isBlank_mark
  last c hc := by
    rw [quoted, ← List.append_assoc, List.getLast?_concat] at hc
    rw [← Option.some.inj hc]
    exact l.isBlank_mark

/-- `settingValue` takes off the blanks first, then the quotation marks. -/
theorem settingValue_right :
    settingValue (l.aroundValue.1.text ++ l.quoted) = l.setting.value.toList := by
  have hblanks : stripWhere isBlank (l.aroundValue.1.text ++ (l.quoted ++ [])) = l.quoted :=
    stripWhere_pad l.aroundValue.1.blank l.bare_quoted (by simp)
  rw [List.append_nil] at hblanks
  have hmark : ∀ c ∈ [l.mark.char], isValueQuote c = true := by
    simpa using l.isValueQuote_mark
  rw [settingValue, hblanks]
  exact stripWhere_pad hmark l.setting.value_bare hmark

/-- `stripWhere` takes off the blanks before the key and those behind the value. -/
theorem strip_text :
    stripWhere isBlank l.text =
      l.left.dropWhile isBlank ++ '=' :: (l.aroundValue.1.text ++ l.quoted) := by
  have hleading : l.text.dropWhile isBlank = l.left.dropWhile isBlank ++ '=' :: l.right := by
    rw [text, List.dropWhile_append]
    split <;> rename_i hempty
    · rw [List.isEmpty_iff.1 hempty]
      exact List.dropWhile_cons_of_neg (by decide)
    · rfl
  rw [stripWhere, hleading, dropTrailing_append_cons (by decide), l.dropTrailing_right]

/-- The line of a setting is no remark. -/
theorem not_remark : (stripWhere isBlank l.text).head? ≠ some '#' := by
  rw [strip_text]
  intro hhead
  cases hleft : l.left.dropWhile isBlank with
  | nil => simp [hleft] at hhead
  | cons c cs =>
    obtain rfl : c = '#' := by simpa [hleft] using hhead
    -- then the key begins with it too
    have hkey := l.strip_left
    rw [stripWhere, hleft, ← List.nil_append ('#' :: cs), dropTrailing_append_cons (by decide)]
      at hkey
    exact l.setting.key_unremarked (hkey ▸ rfl)

/-- `readSetting?` reads the line of a setting as the setting that it is. -/
theorem readSetting?_text : readSetting? l.text = some l.setting.pair := by
  -- the first `=` stands between the two sides, since the left one has none
  have hunequal : ∀ c ∈ l.left.dropWhile isBlank, (c != '=') = true := by
    intro c hc
    have hmem := (List.dropWhile_sublist _).mem hc
    simpa using fun h : c = '=' => l.unequal_left (h ▸ hmem)
  have hkey : (stripWhere isBlank l.text).takeWhile (· != '=') = l.left.dropWhile isBlank := by
    rw [strip_text, List.takeWhile_append_of_pos hunequal, List.takeWhile_cons_of_neg (by simp),
      List.append_nil]
  have hvalue : (stripWhere isBlank l.text).drop ((l.left.dropWhile isBlank).length + 1) =
      l.aroundValue.1.text ++ l.quoted := by
    rw [strip_text, ← List.drop_drop, List.drop_left]
    rfl
  have hstrip : stripWhere isBlank (l.left.dropWhile isBlank) = l.setting.key.toList := by
    rw [← strip_left, stripWhere, stripWhere, List.dropWhile_idempotent]
  have hequal : (stripWhere isBlank l.text).contains '=' = true := by
    simp [strip_text]
  have hnonempty : (stripWhere isBlank l.text).isEmpty = false := by
    simp [strip_text]
  have hremark : ((stripWhere isBlank l.text).head? == some '#') = false := by
    simpa using l.not_remark
  rw [readSetting?]
  simp only [hnonempty, hremark, hequal, hkey, hvalue, hstrip, l.settingValue_right,
    String.ofList_toList]
  rfl

end SettingLine

namespace SettingsLine

/-- `readSetting?` reads every line as what it is: a setting, or nothing. -/
theorem readSetting?_text (l : SettingsLine) : readSetting? l.text = l.pair? := by
  cases l with
  | setting l => exact l.readSetting?_text
  | blank s =>
    -- a line of blanks has nothing between them
    have hblank : stripWhere isBlank s.text = [] := by
      have hpad : stripWhere isBlank (s.text ++ ([] ++ [])) = [] :=
        stripWhere_pad s.blank ⟨by simp, by simp⟩ (by simp)
      rwa [List.append_nil, List.append_nil] at hpad
    simp [text, readSetting?, hblank, pair?]
  | comment s cs _ =>
    have hhead : stripWhere isBlank (s.text ++ '#' :: cs) = '#' :: dropTrailing isBlank cs := by
      rw [stripWhere, dropWhile_append_of_head s.blank (by simp +decide)]
      exact dropTrailing_append_cons (by decide) [] cs
    simp [text, readSetting?, hhead, pair?]
  | plain cs _ hequal =>
    have hnone : '=' ∉ stripWhere isBlank cs := fun h => hequal (mem_of_mem_stripWhere h)
    simp [text, readSetting?, hnone, pair?]

/-- No line goes on in the next one. -/
theorem text_inline (l : SettingsLine) : Inline l.text := by
  cases l with
  | setting l =>
    have hmark : Inline [l.mark.char] := by cases l.mark <;> decide
    have hquoted : Inline l.quoted :=
      inline_append.2 ⟨hmark, inline_append.2 ⟨l.setting.value_inline, hmark⟩⟩
    have hleft : Inline l.left :=
      inline_append.2 ⟨l.aroundKey.1.inline,
        inline_append.2 ⟨l.setting.key_inline, l.aroundKey.2.inline⟩⟩
    have hright : Inline l.right :=
      inline_append.2 ⟨l.aroundValue.1.inline, inline_append.2 ⟨hquoted, l.aroundValue.2.inline⟩⟩
    exact inline_append.2 ⟨hleft, inline_cons.2 ⟨by decide, hright⟩⟩
  | blank s => exact s.inline
  | comment s cs hcs => exact inline_append.2 ⟨s.inline, inline_cons.2 ⟨by decide, hcs⟩⟩
  | plain _ hcs _ => exact hcs

end SettingsLine

/-! ## The file -/

namespace SettingsFile

/-- `lineValues` finds the settings of a file line by line. The induction is on the lines. -/
theorem lineValues_characters (f : SettingsFile) :
    lineValues readSetting? f.characters = f.pairs := by
  obtain ⟨lines, last⟩ := f
  have hempty : readSetting? [] = none := rfl
  simp only [characters, pairs]
  induction lines with
  | nil =>
    rw [List.flatMap_nil, List.nil_append, lineValues_singleton hempty last.text_inline,
      last.readSetting?_text]
    rfl
  | cons line lines ih =>
    obtain ⟨l, e⟩ := line
    rw [List.flatMap_cons, List.append_assoc, List.append_assoc,
      lineValues_append hempty l.text_inline, ih, l.readSetting?_text, List.filterMap_cons]
    -- a remark or a blank line has no setting to add
    cases l.pair? <;> rfl

/-- `readSettings` reads a file as its settings, in order and with those that stand there more than
once. -/
theorem readSettings_text (f : SettingsFile) : readSettings f.text = f.pairs := by
  rw [readSettings, text, String.toList_ofList]
  exact f.lineValues_characters

end SettingsFile

/-- A settings file that has been written is read by `readSettings` as its settings, in order and
with those that stand there more than once. So it is by `settingsVariables`, where the loader is
given the name of a file with this text. -/
theorem readSettings_written (f : SettingsFile) :
    readSettings f.text = f.pairs ∧
      ∀ (fs : FileSystem) (s : Sources) (name : String), s.settings = some name → name ≠ "" →
        fs.entryAt (Path.of name) = .ok (.file f.text.toUTF8) →
        s.settingsVariables fs = .ok f.pairs := by
  refine ⟨f.readSettings_text, ?_⟩
  intro fs s name hname hnonempty hfile
  have hthere : fs.hasEntry (Path.of name) = .ok true := by
    rw [FileSystem.hasEntry, hfile]
  have hempty : name.isEmpty = false := by simpa using hnonempty
  -- line feeds are unified when the file is read, and once more before it is split into lines
  have hunified : readSettings (String.ofList (unifyNewlines f.text.toList)) = f.pairs := by
    rw [← f.readSettings_text, readSettings, readSettings, String.toList_ofList,
      unifyNewlines_unifyNewlines]
  rw [Sources.settingsVariables, hname]
  simp only [hempty, hthere, readText_of_text hfile]
  simpa [onFile, bind, Except.bind, pure, Except.pure] using hunified

/-- A switch, on a line with blanks on both sides of the `=`. -/
def switchLine : SettingLine where
  setting := ⟨"SF_AOT", "a = b # c ", by decide, by decide, by decide, by decide, by decide,
    by decide⟩
  mark := .double
  aroundKey := (.none, .one ' ' (by decide) (by decide))
  aroundValue := (.one '\t' (by decide) (by decide), .none)

/-- The switch twice, below a comment and with a blank line between. -/
def switchFile : SettingsFile where
  lines := [(.comment .none "a=b".toList (by decide), .crlf),
    (.setting switchLine, .boundary '\r' (by decide)), (.blank .none, .boundary '\n' (by decide))]
  last := .setting { switchLine with mark := .single }

/-- The working directory with the settings in a file. -/
def switchFiles : FileSystem where
  root := .directory [(".env", .file switchFile.text.toUTF8)]
  workingDirectory := []

theorem settingsVariables_switchFiles :
    Sources.settingsVariables switchFiles { settings := some ".env" } =
      .ok [("SF_AOT", "a = b # c "), ("SF_AOT", "a = b # c ")] :=
  (readSettings_written switchFile).2 switchFiles _ ".env" rfl (by decide) rfl

end FactoryRegistry.Config

import DecodeProbe.Proofs.Text.Fields
import DecodeProbe.Report
import DecodeProbe.Report.Reader

/-!
# Reading back what a report wrote

The object of a report gives all its entries back, whatever text they hold.  Its
lines give them back exactly when no key and no value breaks the line it stands
on: each line break inside one makes a line more.
-/

namespace DecodeProbe

namespace Report

/-- The entries as characters. -/
def texts (report : Report) : List (List Char × List Char) :=
  report.entries.map fun entry => (entry.1.toList, entry.2.toList)

/-- No entry breaks the line it stands on. -/
def Unbroken (report : Report) : Prop :=
  ∀ text ∈ report.texts, '\n' ∉ text.1 ∧ '\n' ∉ text.2

/-! ## Lines -/

def lineChars (texts : List (List Char × List Char)) : List Char :=
  texts.flatMap fun text => text.1 ++ '\n' :: text.2 ++ ['\n']

theorem chars_lines (report : Report) : report.chars .lines = lineChars report.texts := by
  simp only [chars, pieces, linePieces, lineChars, texts, List.flatMap_map]
  induction report.entries with
  | nil => rfl
  | cons entry entries ih => simp_all

def linesOf (text : List Char × List Char) : List (List Char) :=
  Text.fields '\n' text.1 ++ Text.fields '\n' text.2

theorem fields_lineChars (texts : List (List Char × List Char)) :
    Text.fields '\n' (lineChars texts) = texts.flatMap linesOf ++ [[]] := by
  induction texts with
  | nil => rfl
  | cons text texts ih =>
      have hchars : lineChars (text :: texts) =
          text.1 ++ '\n' :: (text.2 ++ '\n' :: lineChars texts) := by
        simp [lineChars]
      rw [hchars, Text.fields_append_cons, Text.fields_append_cons, ih]
      simp [linesOf]

theorem readLines?_lineChars (texts : List (List Char × List Char)) :
    readLines? (lineChars texts) = pairs? (texts.flatMap linesOf) := by
  simp [readLines?, fields_lineChars]

theorem pairs?_flatMap {α : Type} (pairs : List (α × α)) :
    pairs? (pairs.flatMap fun pair => [pair.1, pair.2]) = some pairs := by
  induction pairs with
  | nil => rfl
  | cons pair pairs ih => simp [pairs?, ih]

theorem length_of_pairs? {α : Type} {items : List α} {pairs : List (α × α)}
    (hpairs : pairs? items = some pairs) : items.length = 2 * pairs.length := by
  fun_induction pairs? items generalizing pairs with
  | case1 => cases hpairs; rfl
  | case2 => cases hpairs
  | case3 first second rest ih =>
      obtain ⟨later, hlater, rfl⟩ := Option.map_eq_some_iff.mp hpairs
      simp [ih hlater]
      omega

/-- How many line breaks stand inside keys and values. -/
def breaks (texts : List (List Char × List Char)) : Nat :=
  (texts.flatMap fun text => text.1 ++ text.2).count '\n'

theorem length_flatMap_linesOf (texts : List (List Char × List Char)) :
    (texts.flatMap linesOf).length = 2 * texts.length + breaks texts := by
  induction texts with
  | nil => rfl
  | cons text texts ih =>
      simp only [List.flatMap_cons, List.length_append, linesOf, Text.length_fields, ih,
        List.length_cons, breaks, List.count_append]
      omega

theorem breaks_eq_zero_iff (report : Report) : breaks report.texts = 0 ↔ report.Unbroken := by
  simp only [breaks, Unbroken, List.count_eq_zero, List.mem_flatMap, List.mem_append, not_exists,
    not_and, not_or]

/-- Lines give a report back exactly when no entry holds a line break. -/
theorem readLines?_chars_iff (report : Report) :
    readLines? (report.chars .lines) = some report.texts ↔ report.Unbroken := by
  rw [chars_lines, readLines?_lineChars]
  constructor
  · intro hpairs
    have hlength := length_of_pairs? hpairs
    rw [length_flatMap_linesOf] at hlength
    rw [← breaks_eq_zero_iff]
    omega
  · intro hunbroken
    have hlines : report.texts.flatMap linesOf =
        report.texts.flatMap fun text => [text.1, text.2] := by
      apply List.flatMap_congr
      intro text hmem
      obtain ⟨hkey, hvalue⟩ := hunbroken text hmem
      rw [linesOf, Text.fields_of_notMem hkey, Text.fields_of_notMem hvalue]
      rfl
    rw [hlines, pairs?_flatMap]

/-! ## Objects -/

open Text.Quoted (quote)

def memberTokens (entry : String × String) : List Token :=
  [.text entry.1.toList, .colon, .text entry.2.toList]

theorem tokens?_punctuation {c : Char} {token : Token} (hc : punctuation? c = some token)
    (rest : List Char) :
    tokens? .between (c :: rest) = (tokens? .between rest).map (token :: ·) := by
  have hcases : c = '\x7b' ∨ c = '\x7d' ∨ c = ':' ∨ c = ',' := by
    by_contra hnone
    simp_all [punctuation?]
  have hplain : isSpace c = false ∧ c ≠ '"' := by
    rcases hcases with rfl | rfl | rfl | rfl <;> decide
  simp [tokens?, hplain, hc]

theorem tokens?_memberPieces (entry : String × String) (rest : List Char) :
    tokens? .between ((memberPieces entry).flatten ++ rest) =
      (tokens? .between rest).map (memberTokens entry ++ ·) := by
  have hcolon := tokens?_punctuation (c := ':') rfl (quote entry.2.toList ++ rest)
  rw [tokens?_quote, Option.map_map] at hcolon
  have hkey := tokens?_quote entry.1.toList (':' :: (quote entry.2.toList ++ rest))
  rw [hcolon, Option.map_map] at hkey
  simpa [memberPieces, memberTokens, Function.comp_def] using hkey

/-- The members as they stand between the braces. -/
def memberChars (entries : List (String × String)) : List Char :=
  ([[',']].intercalate (entries.map memberPieces)).flatten

theorem memberChars_cons_cons (entry next : String × String) (entries : List (String × String)) :
    memberChars (entry :: next :: entries) =
      (memberPieces entry).flatten ++ ',' :: memberChars (next :: entries) := by
  rw [memberChars, memberChars, List.map_cons, List.map_cons, List.intercalate_cons_cons]
  simp

theorem memberChars_singleton (entry : String × String) :
    memberChars [entry] = (memberPieces entry).flatten := by
  simp [memberChars, List.intercalate]

theorem tokens?_members (entry : String × String) (entries : List (String × String))
    (rest : List Char) :
    tokens? .between (memberChars (entry :: entries) ++ rest) =
      (tokens? .between rest).map
        ([.comma].intercalate ((entry :: entries).map memberTokens) ++ ·) := by
  induction entries generalizing entry with
  | nil =>
      rw [memberChars_singleton, tokens?_memberPieces]
      simp [List.intercalate]
  | cons next entries ih =>
      have hcomma := tokens?_punctuation (c := ',') rfl (memberChars (next :: entries) ++ rest)
      rw [ih, Option.map_map] at hcomma
      rw [memberChars_cons_cons, List.append_assoc, tokens?_memberPieces, List.cons_append, hcomma,
        Option.map_map]
      simp [List.intercalate_cons_cons, Function.comp_def]

theorem members?_cons (entry : String × String) (rest : List Token) :
    members? (memberTokens entry ++ .comma :: rest) =
      (members? rest).map ((entry.1.toList, entry.2.toList) :: ·) := rfl

theorem members?_members (entry : String × String) (entries : List (String × String)) :
    members? ([.comma].intercalate ((entry :: entries).map memberTokens) ++ [.closeBrace]) =
      some ((entry :: entries).map fun entry => (entry.1.toList, entry.2.toList)) := by
  induction entries generalizing entry with
  | nil => rfl
  | cons next entries ih =>
      have hlater := ih next
      simp only [List.map_cons] at hlater ⊢
      rw [List.intercalate_cons_cons, List.append_assoc, List.append_assoc, List.singleton_append,
        members?_cons, hlater]
      rfl

theorem readObject?_of_members {input : List Char} {tokens : List Token}
    {pairs : List (List Char × List Char)}
    (htokens : tokens? .between input = some (.openBrace :: tokens))
    (hmembers : members? tokens = some pairs) : readObject? input = some pairs := by
  rw [readObject?, htokens]
  split
  · next hempty =>
    obtain rfl : tokens = [.closeBrace] := by simpa using hempty
    cases hmembers
  · next hrest =>
    obtain rfl : tokens = _ := by simpa using hrest
    exact hmembers
  · next hother => exact absurd rfl (hother tokens)

/-- The object of a report, without the line break after it. -/
def objectChars (report : Report) : List Char :=
  '\x7b' :: (memberChars report.entries ++ ['\x7d'])

theorem chars_object (report : Report) : report.chars .object = report.objectChars ++ ['\n'] := by
  simp [chars, pieces, objectPieces, objectChars, memberChars]

/-- An object gives back every entry of the report, whatever blanks follow it. -/
theorem readObject?_objectChars (report : Report) {rest : List Char}
    (hrest : tokens? .between rest = some []) :
    readObject? (report.objectChars ++ rest) = some report.texts := by
  have hclose := tokens?_punctuation (c := '\x7d') rfl rest
  rw [hrest, Option.map_some] at hclose
  have hopen := tokens?_punctuation (c := '\x7b') rfl
    (memberChars report.entries ++ '\x7d' :: rest)
  have hchars : report.objectChars ++ rest =
      '\x7b' :: (memberChars report.entries ++ '\x7d' :: rest) := by
    simp [objectChars]
  cases hentries : report.entries with
  | nil =>
      rw [hentries] at hopen hchars
      have hempty : tokens? .between (report.objectChars ++ rest) =
          some [.openBrace, .closeBrace] := by
        rw [hchars, hopen]
        exact congrArg (Option.map _) hclose
      rw [readObject?, hempty, texts, hentries]
      rfl
  | cons entry entries =>
      rw [texts, hentries]
      apply readObject?_of_members _ (members?_members entry entries)
      rw [hchars, hopen, hentries, tokens?_members, hclose]
      rfl

theorem readObject?_chars (report : Report) :
    readObject? (report.chars .object) = some report.texts := by
  rw [chars_object]
  exact report.readObject?_objectChars rfl

end Report

end DecodeProbe

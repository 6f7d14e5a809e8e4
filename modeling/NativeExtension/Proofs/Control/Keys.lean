import Mathlib.Data.List.TakeWhile
import NativeExtension.Proofs.Control.Quotation
import NativeExtension.Proofs.Text.Trim

namespace NativeExtension.Control

open Text

/-- The key that a line gives a value, if it is an entry. -/
def lineKey? (raw : List Char) : Option String := Option.map Prod.fst <| lineEntry? raw

/-- The characters in front of the first equals sign. -/
def keyPart (cs : List Char) : List Char := cs.takeWhile (· != '=')

theorem keyPart_append {front : List Char} (h : '=' ∈ front) (back : List Char) :
    keyPart (front ++ back) = keyPart front := by
  induction front with
  | nil => cases h
  | cons c rest ih =>
    unfold keyPart at ih ⊢
    by_cases hc : c = '='
    · simp [hc]
    · have hrest : '=' ∈ rest := by simpa [Ne.symm hc] using h
      simp [hc, ih hrest]

theorem trim_keyPart_trim {cs : List Char} (h : '=' ∈ cs) :
    trim (keyPart (trim cs)) = trim (keyPart cs) := by
  have hsign : isBlank '=' = false := by decide
  have hmem : '=' ∈ trim cs := (mem_trim_iff hsign).mpr h
  obtain ⟨lead, trail, hlead, -, hcs⟩ := exists_trim cs
  have hplain : ∀ c ∈ lead, (c != '=') = true := by
    intro c hc
    have hne : c ≠ '=' := by
      rintro rfl
      simp [hlead _ hc] at hsign
    simpa using hne
  have hkey : keyPart cs = lead ++ keyPart (trim cs) := calc
    keyPart cs = keyPart (lead ++ (trim cs ++ trail)) := congrArg keyPart hcs
    _ = lead ++ keyPart (trim cs ++ trail) := List.takeWhile_append_of_pos hplain
    _ = lead ++ keyPart (trim cs) := by rw [keyPart_append hmem]
  rw [hkey, trim_append_of_isBlank hlead]

theorem lineKey?_of_comment {raw : List Char} (h : raw.find? (!isBlank ·) = some '#') :
    lineKey? raw = none := by
  rw [← head?_trim] at h
  obtain ⟨rest, hrest⟩ := List.head?_eq_some_iff.mp h
  rw [lineKey?, lineEntry?, hrest]
  rfl

theorem lineKey?_of_not_mem {raw : List Char} (h : '=' ∉ raw) : lineKey? raw = none := by
  have hdrop : (trim raw).dropWhile (· != '=') = [] := by
    refine List.dropWhile_eq_nil_iff.mpr fun c hc => ?_
    have hne : c ≠ '=' := by
      rintro rfl
      exact h (trim_subset raw hc)
    simpa using hne
  rw [lineKey?, lineEntry?]
  split
  next => rfl
  next => rfl
  next => rw [hdrop]; rfl

/-- A line is an entry if it holds an equals sign and does not begin as a comment. Its key is what
    stands in front of the first equals sign. -/
theorem lineKey?_of_mem {raw : List Char} (h : '=' ∈ raw)
    (hcomment : raw.find? (!isBlank ·) ≠ some '#') :
    lineKey? raw = some (String.ofList (trim (keyPart raw))) := by
  have hmem : '=' ∈ trim raw := (mem_trim_iff (by decide)).mpr h
  rw [← head?_trim] at hcomment
  rw [lineKey?, lineEntry?]
  split
  next heq => simp [heq] at hmem
  next heq => simp [heq] at hcomment
  next =>
    split
    next heq =>
      have hsign := List.dropWhile_eq_nil_iff.mp heq _ hmem
      simp at hsign
    next => rw [← trim_keyPart_trim h]; rfl

/-- What follows the equals sign of an entry does not change its key. -/
theorem lineKey?_append_of_mem {front : List Char} (h : '=' ∈ front) (back : List Char) :
    lineKey? (front ++ back) = lineKey? front := by
  have hmem : '=' ∈ front ++ back := List.mem_append_left back h
  have hfind : (front ++ back).find? (!isBlank ·) = front.find? (!isBlank ·) := by
    have hsome : (front.find? (!isBlank ·)).isSome = true :=
      List.find?_isSome.mpr ⟨'=', h, by decide⟩
    rw [List.find?_append, Option.or_of_isSome hsome]
  by_cases hcomment : front.find? (!isBlank ·) = some '#'
  · rw [lineKey?_of_comment hcomment, lineKey?_of_comment (hfind.trans hcomment)]
  · rw [lineKey?_of_mem h hcomment, lineKey?_of_mem hmem (by rwa [hfind]), keyPart_append h]

/-- What holds no equals sign makes no entry of the line that it stands behind, nor does it change
    the key of one. -/
theorem lineKey?_append_of_not_mem (front : List Char) {back : List Char} (h : '=' ∉ back) :
    lineKey? (front ++ back) = lineKey? front := by
  by_cases hfront : '=' ∈ front
  · exact lineKey?_append_of_mem hfront back
  · have hmem : '=' ∉ front ++ back := by simp [hfront, h]
    rw [lineKey?_of_not_mem hmem, lineKey?_of_not_mem hfront]

theorem isSome_lineKey?_doubleQuotes (line : List Char) :
    (lineKey? (doubleQuotes line)).isSome = (lineKey? line).isSome := by
  by_cases hcomment : line.find? (!isBlank ·) = some '#'
  · have hdoubled := (find?_doubleQuotes line).trans hcomment
    rw [lineKey?_of_comment hcomment, lineKey?_of_comment hdoubled]
  · by_cases hmem : '=' ∈ line
    · have hdoubled := subset_doubleQuotes line hmem
      rw [lineKey?_of_mem hmem hcomment,
        lineKey?_of_mem hdoubled (by rwa [find?_doubleQuotes])]
      rfl
    · have hdoubled : '=' ∉ doubleQuotes line := fun h => hmem (doubleQuotes_subset line h)
      rw [lineKey?_of_not_mem hmem, lineKey?_of_not_mem hdoubled]

end NativeExtension.Control

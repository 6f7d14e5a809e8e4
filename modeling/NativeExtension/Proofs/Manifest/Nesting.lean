import NativeExtension.Manifest

namespace NativeExtension

namespace Toml

/-- So many arrays opened in each other, and what follows. -/
def openArrays (n : Nat) (rest : List Char) : List Char := List.replicate n '[' ++ rest

theorem openArrays_succ (n : Nat) (rest : List Char) :
    openArrays (n + 1) rest = '[' :: openArrays n rest := by
  simp [openArrays, List.replicate_succ]

theorem length_openArrays (n : Nat) (rest : List Char) :
    (openArrays n rest).length = n + rest.length := by
  simp [openArrays]

theorem skipArrayGap_bracket (rest : List Char) : skipArrayGap ('[' :: rest) = .ok ('[' :: rest) := by
  simp [skipArrayGap, skipGaps, skipComment, isGap, isInlineBlank, Bind.bind, Except.bind, pure,
    Except.pure]

theorem readString?_bracket (rest : List Char) : readString? ('[' :: rest) = none := by
  simp [readString?]

/-- An array is opened by calls of which there must be enough. -/
theorem readValue_bracket (fuel calls : Nat) (rest : List Char) :
    readValue (fuel + 1) calls ('[' :: rest) = nested arrayCalls calls fun calls =>
      skipArrayGap rest >>= readElements fuel calls [] := by
  rw [readValue, readString?_bracket]

theorem readElements_bracket {fuel calls : Nat} {items : List Value} {rest : List Char}
    (h : readValue fuel calls ('[' :: rest) = .error .tooDeep) :
    readElements (fuel + 1) calls items ('[' :: rest) = .error .tooDeep := by
  rw [readElements, h]
  · rfl
  · simp

/-- More arrays opened in each other than calls can be nested are too deep, whatever follows them. -/
theorem readValue_openArrays {n fuel calls : Nat} (rest : List Char)
    (hdeep : calls < arrayCalls * n) (hfuel : 2 * n ≤ fuel) :
    readValue fuel calls (openArrays n rest) = .error .tooDeep := by
  induction n generalizing fuel calls with
  | zero => simp at hdeep
  | succ n ih =>
    obtain ⟨fuel, rfl⟩ : ∃ k, fuel = k + 2 := ⟨fuel - 2, by omega⟩
    rw [openArrays_succ, readValue_bracket, nested]
    split
    next => rfl
    next henough =>
      obtain ⟨n, rfl⟩ : ∃ k, n = k + 1 := ⟨n - 1, by simp only [arrayCalls] at *; omega⟩
      have hinner := @ih fuel (calls - arrayCalls) (by simp only [arrayCalls] at *; omega) (by omega)
      rw [openArrays_succ] at hinner ⊢
      rw [skipArrayGap_bracket]
      exact readElements_bracket hinner

theorem joinLineEnds_openArrays (n : Nat) (rest : List Char) :
    joinLineEnds (openArrays n rest) = openArrays n (joinLineEnds rest) := by
  induction n with
  | zero => rfl
  | succ n ih => simp [openArrays_succ, joinLineEnds, ih]

/-- An entry that opens more arrays in each other than calls can be nested is too deep. -/
theorem readStatement_openArrays {n : Nat} (d : Draft) (rest : List Char)
    (hdeep : callLimit < arrayCalls * n) :
    readStatement d ('x' :: ' ' :: '=' :: ' ' :: openArrays n rest) = .error .tooDeep := by
  have hkey : readKey ('x' :: ' ' :: '=' :: ' ' :: openArrays n rest) =
      .ok (["x"], '=' :: ' ' :: openArrays n rest) := rfl
  have hblanks : skipBlanks (' ' :: openArrays n rest) = openArrays n rest := by
    obtain ⟨n, rfl⟩ : ∃ k, n = k + 1 := ⟨n - 1, by simp only [arrayCalls] at hdeep; omega⟩
    rw [openArrays_succ]
    rfl
  have hvalue : readValue (2 * (' ' :: openArrays n rest).length + 2) callLimit
      (skipBlanks (' ' :: openArrays n rest)) = .error .tooDeep := by
    rw [hblanks]
    refine readValue_openArrays rest hdeep ?_
    simp only [List.length_cons, length_openArrays]
    omega
  simp only [readStatement, hkey, hvalue, Bind.bind, Except.bind]
  rfl

/-- A document whose first entry opens more arrays in each other than calls can be nested is too
    deep. -/
theorem read_openArrays {n : Nat} (rest : List Char) (hdeep : callLimit < arrayCalls * n) :
    read ("x = " ++ String.ofList (openArrays n rest)) = .error .tooDeep := by
  have hchars : joinLineEnds ("x = " ++ String.ofList (openArrays n rest)).toList =
      'x' :: ' ' :: '=' :: ' ' :: openArrays n (joinLineEnds rest) := by
    simp [joinLineEnds, joinLineEnds_openArrays]
  have hstatements (fuel : Nat) (d : Draft) : readStatements (fuel + 1) d
      ('x' :: ' ' :: '=' :: ' ' :: openArrays n (joinLineEnds rest)) = .error .tooDeep := by
    change (readStatement d _ >>= _) = _
    rw [readStatement_openArrays d _ hdeep]
    rfl
  rw [read, hchars]
  rw [hstatements]

end Toml

/-- A manifest whose first entry opens more arrays in each other than calls can be nested ends with a
    fault, which is no error of the manifest. -/
theorem Manifest.parse_openArrays {n : Nat} (source : String) (rest : List Char)
    (hdeep : callLimit < Toml.arrayCalls * n) :
    parse source ("x = " ++ String.ofList (Toml.openArrays n rest)) =
      .error (.fault (.tooLarge .nesting)) := by
  rw [parse, parseWith, Toml.read_openArrays rest hdeep]

end NativeExtension

import NativeExtension.Proofs.Build.Ends
import NativeExtension.Proofs.Declaration.Naming
import NativeExtension.Proofs.Registration.Lines
import NativeExtension.Proofs.Registration.Repeated

namespace NativeExtension.Scan

open Build Text

/-- The source that registers the native functions of an SQL text. -/
def registrations (sql : String) : Build String := do wrapper (← functionNames sql)

theorem exists_ends_functionNames {sql : String} {tokens : List Sql.Token}
    (h : Sql.tokenize sql = .ok tokens) (s : BuildState) :
    ∃ s', Ends (functionNames sql) s
      (.ok ((Declaration.ofTokens tokens).map Declaration.functionName)) s' := by
  have hfound : ∃ s', Ends (declarations sql) s (.ok (Declaration.ofTokens tokens)) s' := by
    unfold declarations
    rw [h]
    exact ⟨_, ends_say_pure⟩
  obtain ⟨s', hfound⟩ := hfound
  exact ⟨s', ends_bind_ok_iff.mpr ⟨_, s', hfound, ends_pure_iff.mpr ⟨rfl, rfl⟩⟩⟩

/-- The source that is generated from an SQL text: the lines of the preamble, then for each
    declaration, in order, those of its registration and an empty one. The registrations are one
    line each, and no name makes another, if and only if none of the names holds a line boundary.
    Only a quoted name holds one, but for a line feed at the end of a name with Unicode escapes. -/
theorem registrations_lines {sql : String} {tokens : List Sql.Token}
    (htokens : Sql.tokenize sql = .ok tokens) (s : BuildState) :
    ∃ names s', names = (Declaration.ofTokens tokens).map Declaration.functionName ∧
      Ends (registrations sql) s (.ok (Registration.source names)) s' ∧
      lines (Registration.source names).toList = lines Registration.preamble.toList ++
        (names.flatMap fun name => lines (Registration.statement name).toList ++ [[]]) ∧
      (Registration.OneLineEach names ↔ ∀ name ∈ names, Unbroken name.toList) ∧
      ∀ name ∈ names, ∃ t ∈ tokens, t.text = name ∧ (t.kind = .quotedName ∨
        ∃ front, Unbroken front ∧ (name.toList = front ∨ name.toList = front ++ ['\n'])) := by
  obtain ⟨s₁, hnames⟩ := exists_ends_functionNames htokens s
  have hwrapper := wrapper_ends ((Declaration.ofTokens tokens).map Declaration.functionName) s₁
  refine ⟨_, _, rfl, ends_bind_ok_iff.mpr ⟨_, s₁, hnames, hwrapper⟩,
    Registration.lines_source _, Registration.oneLineEach_iff, fun name hname => ?_⟩
  obtain ⟨d, hd, rfl⟩ := List.mem_map.mp hname
  obtain ⟨t, ht, hisName, rfl⟩ := Declaration.namedAmong_of_mem hd
  refine ⟨t, ht, rfl, ?_⟩
  obtain hquoted | ⟨-, hspelled⟩ : t.kind = .quotedName ∨
      t.isLiteral = false ∧ Sql.Token.spellsName t.text.toList = true := by
    simpa [Sql.Token.isName] using hisName
  · exact .inl hquoted
  · exact .inr (Sql.Token.unbroken_of_spellsName hspelled)

theorem exists_tokens (sql : String) (names : List String)
    (h : (Sql.tokenize sql).toOption.map
      (fun tokens => (Declaration.ofTokens tokens).map Declaration.functionName) = some names) :
    ∃ tokens, Sql.tokenize sql = .ok tokens ∧
      (Declaration.ofTokens tokens).map Declaration.functionName = names := by
  obtain ⟨tokens, htokens, hnames⟩ := Option.map_eq_some_iff.mp h
  exact ⟨tokens, eq_ok_of_toOption htokens, hnames⟩

/-- A plain name, and a quoted one behind a schema. -/
def sampleDeclarations : String :=
  "create function f() returns int language c;\n" ++
  "create function s.\"g h\"() returns int language \x27C\x27;\n"

theorem registrations_lines_sample :
    ∃ s', Ends (registrations sampleDeclarations) ⟨{ entries := [], current := [] }, [], []⟩
        (.ok (Registration.source ["f", "g h"])) s' ∧
      Registration.OneLineEach ["f", "g h"] := by
  obtain ⟨tokens, htokens, hfound⟩ :=
    exists_tokens sampleDeclarations ["f", "g h"] (by decide +kernel)
  obtain ⟨names, s', hnames, hends, -, hiff, -⟩ :=
    registrations_lines htokens ⟨{ entries := [], current := [] }, [], []⟩
  obtain rfl : names = ["f", "g h"] := hnames.trans hfound
  exact ⟨s', hends, hiff.mpr (by decide +kernel)⟩

/-- One declaration, whose quoted name runs over two lines. -/
def brokenDeclaration : String :=
  "create function \"f\n#error\"() returns int as \x27f\x27 language c;"

/-- A quoted name that holds a line feed makes a further line, of its own choice. -/
theorem registrations_break_line :
    ∃ tokens, Sql.tokenize brokenDeclaration = .ok tokens ∧
      (Declaration.ofTokens tokens).map Declaration.functionName = ["f\n#error"] ∧
      ¬ Registration.OneLineEach ["f\n#error"] ∧
      "#error);".toList ∈ lines (Registration.source ["f\n#error"]).toList := by
  obtain ⟨tokens, htokens, hfound⟩ :=
    exists_tokens brokenDeclaration ["f\n#error"] (by decide +kernel)
  have hbroken : ¬ Unbroken "f\n#error".toList := by decide +kernel
  refine ⟨tokens, htokens, hfound, fun h => hbroken (h.unbroken List.mem_cons_self), ?_⟩
  decide +kernel

end NativeExtension.Scan

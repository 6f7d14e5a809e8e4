import Mathlib.Data.List.Forall2
import NativeExtension.Declaration

namespace NativeExtension.Declaration

open Sql

/-- Two tokens that make the walk do the same, whatever name or language they give. -/
structure ReadsAlike (x y : Token) : Prop where
  keyword : ∀ word, x.isKeyword word = y.isKeyword word
  isName : x.isName = y.isName
  separator : x.isSeparator = y.isSeparator
  dot : x.isDot = y.isDot

/-- Two token lists that are walked over in step, where `named` says how tokens that can name a
    function correspond. Only behind the keyword `LANGUAGE` does it matter which language a token
    names, and `behind` says whether the first tokens stand there. -/
inductive InStep (named : Token → Token → Prop) : (behind : Bool) → List Token → List Token → Prop
  | nil {behind : Bool} : InStep named behind [] []
  | cons {behind : Bool} {x y : Token} {xs ys : List Token} (reads : ReadsAlike x y)
      (names : x.isName = true → named x y)
      (language : behind = true → x.namesNativeLanguage = y.namesNativeLanguage)
      (rest : InStep named (x.isKeyword "LANGUAGE") xs ys) : InStep named behind (x :: xs) (y :: ys)

/-- Two walks that wait for the same, with corresponding names. A language can only be awaited
    behind the keyword `LANGUAGE`. -/
inductive Awaiting.Same (named : Token → Token → Prop) (behind : Bool) : Awaiting → Awaiting → Prop
  | create : Same named behind .create .create
  | function : Same named behind .function .function
  | name : Same named behind .name .name
  | language {t u : Token} (names : named t u) : Same named behind (.language t) (.language u)
  | languageName {t u : Token} (names : named t u) (follows : behind = true) :
      Same named behind (.languageName t) (.languageName u)

/-- Two declarations that are named by corresponding tokens. -/
def NamedAlike (named : Token → Token → Prop) (d e : Declaration) : Prop :=
  ∃ x y, named x y ∧ d = ofName x ∧ e = ofName y

variable {named : Token → Token → Prop} {behind : Bool} {xs ys : List Token}

/-- A qualified name has as many parts in both lists, and the walks go on in step behind it. -/
theorem qualified_inStep {t u : Token} (h : InStep named behind xs ys) (hname : named t u) :
    named (qualified t xs).1 (qualified u ys).1 ∧
      ∃ behind, InStep named behind (qualified t xs).2 (qualified u ys).2 := by
  fun_induction qualified t xs generalizing u ys behind with
  | case1 t dot next rest hpart ih =>
    obtain _ | ⟨hdot, _, _, hrest⟩ := h
    obtain _ | ⟨hnext, hnames, _, htail⟩ := hrest
    simp only [Bool.and_eq_true] at hpart
    have hpart' := hpart
    rw [hdot.dot, hnext.isName] at hpart'
    simpa [qualified, hpart'] using ih htail (hnames hpart.2)
  | case2 t dot next rest hpart =>
    have hlists := h
    obtain _ | ⟨hdot, _, _, hrest⟩ := h
    obtain _ | ⟨hnext, _, _, htail⟩ := hrest
    rw [hdot.dot, hnext.isName] at hpart
    simp only [qualified, hpart]
    exact ⟨hname, behind, hlists⟩
  | case3 t rest hshort =>
    have hlists := h
    have hsame : qualified u ys = (u, ys) := by
      obtain _ | ⟨_, _, _, hrest⟩ := h
      · rfl
      obtain _ | _ := hrest
      · rfl
      · exact absurd rfl (hshort _ _ _)
    rw [hsame]
    exact ⟨hname, behind, hlists⟩

/-- Walks in step find declarations with corresponding names. The induction follows the first walk;
    in each of its cases the second takes the same branch, since a branch looks at no more of a
    token than what both read alike. -/
theorem walk_inStep {state state' : Awaiting} (h : InStep named behind xs ys)
    (hstate : state.Same named behind state') :
    List.Forall₂ (NamedAlike named) (walk state xs) (walk state' ys) := by
  fun_induction walk state xs generalizing state' ys behind with
  | case1 state =>
    obtain _ | _ := h
    simp [walk]
  | case2 x xs ih =>
    obtain _ | ⟨hreads, _, _, hrest⟩ := h
    obtain ⟨⟩ := hstate
    simp only [walk, ← hreads.keyword]
    refine ih hrest ?_
    split
    · exact .function
    · exact .create
  | case3 x xs hfunction ih =>
    obtain _ | ⟨hreads, _, _, hrest⟩ := h
    obtain ⟨⟩ := hstate
    simpa [walk, ← hreads.keyword, hfunction] using ih hrest .name
  | case4 x xs hfunction hmodifier ih =>
    obtain _ | ⟨hreads, _, _, hrest⟩ := h
    obtain ⟨⟩ := hstate
    simpa [walk, ← hreads.keyword, hfunction, hmodifier] using ih hrest .function
  | case5 x xs hfunction hmodifier ih =>
    obtain _ | ⟨hreads, _, _, hrest⟩ := h
    obtain ⟨⟩ := hstate
    simpa [walk, ← hreads.keyword, hfunction, hmodifier] using ih hrest .create
  | case6 x xs hname ih =>
    obtain _ | ⟨hreads, hnames, _, hrest⟩ := h
    obtain ⟨⟩ := hstate
    obtain ⟨hlast, _, hbehind⟩ := qualified_inStep hrest (hnames hname)
    simpa [walk, ← hreads.isName, hname] using ih hbehind (.language hlast)
  | case7 x xs hname ih =>
    obtain _ | ⟨hreads, _, _, hrest⟩ := h
    obtain ⟨⟩ := hstate
    simpa [walk, ← hreads.isName, hname] using ih hrest .create
  | case8 name x xs hseparator ih =>
    obtain _ | ⟨hreads, _, _, hrest⟩ := h
    obtain _ | _ | _ | ⟨_⟩ := hstate
    simpa [walk, ← hreads.separator, hseparator] using ih hrest .create
  | case9 name x xs hseparator hlanguage ih =>
    obtain _ | ⟨hreads, _, _, hrest⟩ := h
    obtain _ | _ | _ | ⟨hname⟩ := hstate
    simpa [walk, ← hreads.separator, ← hreads.keyword, hseparator, hlanguage] using
      ih hrest (.languageName hname hlanguage)
  | case10 name x xs hseparator hlanguage ih =>
    obtain _ | ⟨hreads, _, _, hrest⟩ := h
    obtain _ | _ | _ | ⟨hname⟩ := hstate
    simpa [walk, ← hreads.separator, ← hreads.keyword, hseparator, hlanguage] using
      ih hrest (.language hname)
  | case11 name x xs hnative ih =>
    obtain _ | ⟨_, _, hlanguage, hrest⟩ := h
    obtain _ | _ | _ | _ | ⟨hname, hfollows⟩ := hstate
    have hfound := ih hrest Awaiting.Same.create
    simpa [walk, ← hlanguage hfollows, hnative] using
      ⟨⟨name, _, hname, rfl, rfl⟩, hfound⟩
  | case12 name x xs hnative ih =>
    obtain _ | ⟨_, _, hlanguage, hrest⟩ := h
    obtain _ | _ | _ | _ | ⟨_, hfollows⟩ := hstate
    simpa [walk, ← hlanguage hfollows, hnative] using ih hrest .create

/-- The declarations of token lists that are walked over in step are equally many, and named by
    corresponding tokens. -/
theorem ofTokens_inStep (h : InStep named false xs ys) :
    List.Forall₂ (NamedAlike named) (ofTokens xs) (ofTokens ys) :=
  walk_inStep h .create

end NativeExtension.Declaration

/-
This file proves that no decision about a type depends on its spelling: each of them looks at the
form of the type, and every change of spelling keeps the form.
-/

import DataAccess.Compile.Template
import DataAccess.Mapping.Spelling
import DataAccess.Proofs.Mapping.Support

namespace DataAccess

mutual

/-- A change in the spelling of a type keeps its form. -/
theorem DeclaredType.Respelled.form_eq {declared other : DeclaredType}
    (changed : declared.Respelled other) : declared.form = other.form := by
  cases changed with
  | parenthesized | grouped | unit | unread => simp only [DeclaredType.form]
  | qualifier written other same arguments => simp only [DeclaredType.form, same]
  | lifetime ampersand moved written other same referent => simp only [DeclaredType.form, same]
  | inParentheses opening closing changed => exact changed.form_eq
  | inGroup opening closing changed => exact changed.form_eq
  | inReference ampersand lifetime mutability changed =>
    simp only [DeclaredType.form, changed.form_eq]
  | inArguments qualifier last changed => exact changed.form_eq last.text

/-- Arguments spelled another way have the same form. -/
theorem Arguments.Respelled.form_eq {arguments other : Arguments}
    (changed : arguments.Respelled other) (name : String) :
    arguments.form name = other.form name := by
  cases changed with
  | angled colons colonsMoved opening closing openingMoved closingMoved changed =>
    simp only [Arguments.form, changed.forms_eq]
  | unread written other => rfl

/-- A change in a list of arguments keeps the forms of those that are types. -/
theorem ArgumentsRespelled.forms_eq {list other : List Argument}
    (changed : ArgumentsRespelled list other) : argumentForms list = argumentForms other := by
  cases changed with
  | lifetime | other | comma => simp only [argumentForms]
  | type comma changed rest => simp only [argumentForms, changed.form_eq]
  | behind first changed => cases first <;> simp only [argumentForms, changed.forms_eq]

end

/-- All spellings of a type have one form. -/
theorem DeclaredType.SpelledAlike.form_eq {declared other : DeclaredType}
    (alike : declared.SpelledAlike other) : declared.form = other.form := by
  induction alike with
  | rel _ _ changed => exact changed.form_eq
  | refl _ => rfl
  | symm _ _ _ same => exact same.symm
  | trans _ _ _ _ _ first second => exact first.trans second

namespace Mapping

variable {declared other : DeclaredType}

/-- Types of the same form are classified alike. -/
theorem classify_eq_of_form (same : declared.form = other.form) :
    classify declared = classify other := by
  apply Option.ext
  intro value
  rw [classify_eq_some_iff, classify_eq_some_iff, same]

/-- Parameters of the same form are resolved alike. -/
theorem resolveParameter_eq_of_form (same : declared.form = other.form) :
    resolveParameter declared = resolveParameter other := by
  cases resolved : resolveParameter other with
  | ok found =>
    obtain ⟨value, tag⟩ := found
    rw [resolveParameter_eq_ok_iff, same, ← resolveParameter_eq_ok_iff]
    exact resolved
  | error reason =>
    rw [resolveParameter_eq_error_iff, same, ← resolveParameter_eq_error_iff]
    exact resolved

/-- Returned types of the same form are resolved alike. -/
theorem resolveReturn_eq_of_form (same : declared.form = other.form) :
    resolveReturn (some declared) = resolveReturn (some other) := by
  cases resolved : resolveReturn (some other) with
  | ok returned =>
    rw [resolveReturn_eq_ok_iff, same, ← resolveReturn_eq_ok_iff]
    exact resolved
  | error reason =>
    rw [resolveReturn_eq_error_iff, same, ← resolveReturn_eq_error_iff]
    exact resolved

/-- Decisions about types do not depend on how the types are spelled, nor do the reasons for which
they are rejected. -/
theorem decisions_ignore_spelling (alike : declared.SpelledAlike other) :
    classify declared = classify other ∧ resolveParameter declared = resolveParameter other ∧
      resolveReturn (some declared) = resolveReturn (some other) :=
  ⟨classify_eq_of_form alike.form_eq, resolveParameter_eq_of_form alike.form_eq,
    resolveReturn_eq_of_form alike.form_eq⟩

namespace Sample

/-- A type that is written as one name. -/
def bareType (name : String) : DeclaredType :=
  .path [] ⟨name, .callSite⟩ .none

/-- A list type whose path has a qualifier and arguments. -/
def listOf (qualifier : Code) (arguments : List Argument) : DeclaredType :=
  .path qualifier ⟨"Vec", .callSite⟩ (.angled none .callSite arguments .callSite)

/-- `Vec<i32>` -/
def plainList : DeclaredType :=
  listOf [] [.type (bareType "i32") none]

/-- `(::std::vec::Vec<'a, (i32)>)` -/
def qualifiedList : DeclaredType :=
  .parenthesized .callSite .callSite
    (listOf (Template.absolute ["std", "vec"] ++ Template.mark "::")
      [.lifetime ⟨"'a", .callSite⟩ (some .callSite),
        .type (.parenthesized .callSite .callSite (bareType "i32")) none])

/-- List types are spelled alike where their arguments are. -/
theorem spelledAlike_listOf {arguments others : List Argument}
    (changed : ArgumentsRespelled arguments others) (qualifier : Code) :
    (listOf qualifier arguments).SpelledAlike (listOf qualifier others) :=
  .rel _ _ (.inArguments _ _ (.angled none none .callSite .callSite .callSite .callSite changed))

/-- The parentheses inside come first, then the lifetime, then what qualifies the path and the
parentheses around all. -/
theorem spelledAlike_list : plainList.SpelledAlike qualifiedList :=
  .trans _ _ _ (spelledAlike_listOf (.type none (.parenthesized _ _ _) []) [])
    (.trans _ _ _ (spelledAlike_listOf (.lifetime _ _ _) [])
      (.trans _ _ _ (.rel _ _ (.qualifier _ _ rfl _)) (.rel _ _ (.parenthesized _ _ _))))

end Sample

open Sample

/-- The qualified list is returned as the plain one is. -/
theorem decisions_ignore_spelling_of_list : plainList.SpelledAlike qualifiedList ∧
    resolveParameter qualifiedList = .error .returnOnly ∧
    resolveReturn (some qualifiedList) = .ok ⟨.collection .list .int, .unchecked⟩ := by
  obtain ⟨-, parameter, returned⟩ := decisions_ignore_spelling spelledAlike_list
  exact ⟨spelledAlike_list, parameter.symm.trans rfl, returned.symm.trans rfl⟩

end Mapping

end DataAccess

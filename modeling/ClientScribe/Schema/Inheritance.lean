import ClientScribe.Api.Reference

/-!
# Inheritance

A schema that combines exactly two others, the first of them a reference, extends the type that is
referred to by the second one.
-/

namespace ClientScribe.Schema

open Document (Value)

/-- A type that extends another one. -/
structure Inheritance where
  parent : Text
  extension : Value

/-- The inheritance that combined schemas express, for a type with a name. -/
def inheritanceOf (name combined : Value) : Result Inheritance := do
  if !combined.isTrue then .error (.inheritanceNotPair (← name.text))
  else if (← combined.count) != 2 then .error (.inheritanceNotPair (← name.text))
  else
    let parent ← combined.member 0
    if !parent.isMap then .error (.inheritanceWithoutParent (← name.text))
    else if !(← parent.has "$ref") then .error (.inheritanceWithoutParent (← name.text))
    else
      let parent ← Api.referenceName (← parent.demand "$ref")
      return ⟨parent, ← combined.member 1⟩

end ClientScribe.Schema

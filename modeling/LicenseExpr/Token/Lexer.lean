import LicenseExpr.Token
import LicenseExpr.Text.UpperCase
import LicenseExpr.Text.Whitespace

/-!
# Cutting an expression into tokens

An expression is a sequence of Unicode scalar values; surrogates are not among
them. Each parenthesis is a token. Everything else is cut at blanks and
parentheses into runs as long as possible; a run that is an operator's keyword
is that operator, and any other run is an identifier, kept as it is. Where
keywords are accepted in any case, the upper case of the run decides.
-/

namespace LicenseExpr.Token

open LicenseExpr.Text

def isRunChar (char : Char) : Bool :=
  !isBlank char && char != '(' && char != ')'

def keyword? (anyCase : Bool) (run : List Char) : Option Operator :=
  Operator.ofKeyword? (if anyCase then upper run else run)

def ofRun (anyCase : Bool) (run : List Char) : Token :=
  match keyword? anyCase run with
  | some connective => .operator connective
  | none => .identifier (String.ofList run)

def scan (anyCase : Bool) (text : List Char) : List Token :=
  match text with
  | [] => []
  | char :: rest =>
      if isBlank char then scan anyCase rest
      else if char = '(' then .openParen :: scan anyCase rest
      else if char = ')' then .closeParen :: scan anyCase rest
      else
        ofRun anyCase (char :: rest.takeWhile isRunChar) ::
          scan anyCase (rest.dropWhile isRunChar)
termination_by text.length
decreasing_by
  · simp
  · simp
  · simp
  · exact Nat.lt_succ_of_le (List.dropWhile_sublist _).length_le

def tokenize (anyCase : Bool) (text : String) : List Token :=
  scan anyCase text.toList

end LicenseExpr.Token

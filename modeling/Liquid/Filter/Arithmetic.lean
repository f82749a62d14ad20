import Liquid.Filter.Basic

/-!
# Arithmetic filters

The input and one argument, both as numbers. Division and modulo look at their argument first.
-/

namespace Liquid.Filter

def calculate (filter : String) (op : Number.Operation) : Filter := fun input args => do
  let left ← number filter input
  let right ← number filter (← arg filter args 0)
  return .ofNumber (Number.combine op left right)

def calculateNonzero (filter : String) (op : Number.Operation) : Filter := fun input args => do
  let divisor ← number filter (← arg filter args 0)
  if divisor.isZero then throw (.render "divided by 0")
  calculate filter op input args

def plus : Filter := calculate "plus" Number.sum

def minus : Filter := calculate "minus" Number.difference

def times : Filter := calculate "times" Number.product

def dividedBy : Filter := calculateNonzero "divided_by" Number.quotient

def modulo : Filter := calculateNonzero "modulo" Number.modulo

end Liquid.Filter

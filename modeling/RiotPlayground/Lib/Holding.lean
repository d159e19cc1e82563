import RiotPlayground.Lib.TransitionSystem

/-!
# What a program holds

Blocks are linked to chains, and a program knows a chain by its first block. It may touch a block
only while it holds its chain: not after it has released the chain or given it away.
-/

/-- What is done with a chain or with one of its blocks. -/
inductive Use (α : Type*)
  | take (a : α)
  | prepend (b a : α)
  | access (a : α)
  | release (a : α)
  | give (a : α)

namespace Use

variable {α : Type*} [DecidableEq α]

/-- The chain with the first block `a`, and the others. -/
def detach (a : α) : List (List α) → Option (List α × List (List α))
  | [] => none
  | c :: held =>
    if c.head? = some a then some (c, held)
    else (detach a held).map fun p => (p.1, c :: p.2)

/-- A step is disabled when the program does not hold what it uses. -/
def holding : TransitionSystem (List (List α)) (Use α) where
  step held use :=
    match use with
    | .take a => if a ∈ held.flatten then none else some ([a] :: held)
    | .prepend b a =>
      if b ∈ held.flatten then none
      else (detach a held).map fun p => (b :: p.1) :: p.2
    | .access a => if a ∈ held.flatten then some held else none
    | .release a => (detach a held).map Prod.snd
    | .give a => (detach a held).map Prod.snd

variable {a b : α} {c : List α} {held : List (List α)}

lemma detach_cons (h : c.head? = some a) : detach a (c :: held) = some (c, held) :=
  if_pos h

lemma take_step (h : a ∉ held.flatten) : holding.step held (.take a) = some ([a] :: held) :=
  if_neg h

lemma prepend_step (hhead : c.head? = some a) (h : b ∉ (c :: held).flatten) :
    holding.step (c :: held) (.prepend b a) = some ((b :: c) :: held) := by
  change (if b ∈ (c :: held).flatten then none
    else (detach a (c :: held)).map fun p => (b :: p.1) :: p.2) = _
  rw [if_neg h, detach_cons hhead]
  rfl

lemma access_step : holding.step held (.access a) = if a ∈ held.flatten then some held else none :=
  rfl

lemma release_step (hhead : c.head? = some a) :
    holding.step (c :: held) (.release a) = some held := by
  change (detach a (c :: held)).map Prod.snd = _
  rw [detach_cons hhead]
  rfl

lemma give_step (hhead : c.head? = some a) : holding.step (c :: held) (.give a) = some held :=
  release_step hhead

lemma run_cons {use : Use α} {uses : List (Use α)} {t : List (List α)}
    (h : holding.step held use = some t) :
    holding.run held (use :: uses) = holding.run t uses := by
  change (holding.step held use).bind _ = _
  rw [h]
  rfl

end Use

namespace TransitionSystem

variable {S E : Type*} {sys : TransitionSystem S E}

lemma run_append (s : S) (es fs : List E) :
    sys.run s (es ++ fs) = (sys.run s es).bind fun t => sys.run t fs := by
  induction es generalizing s with
  | nil => rfl
  | cons e es ih =>
    change (sys.step s e).bind _ = ((sys.step s e).bind _).bind _
    rw [Option.bind_assoc]
    congr 1
    funext t
    exact ih t

end TransitionSystem

/-! Totals over lists: what texts and trees amount to, and why walking through them ends. -/

namespace SchemaForge

def total {α : Type} (size : α → Nat) : List α → Nat
  | [] => 0
  | a :: rest => size a + total size rest

variable {α : Type} {f g : α → Nat} {items more : List α}

@[simp] theorem total_nil : total f [] = 0 := rfl

@[simp] theorem total_cons {a : α} : total f (a :: items) = f a + total f items := rfl

@[simp] theorem total_append : total f (items ++ more) = total f items + total f more := by
  induction items with
  | nil => simp
  | cons a rest ih => simp [ih, Nat.add_assoc]

theorem total_le (h : ∀ a ∈ items, f a ≤ g a) : total f items ≤ total g items := by
  induction items with
  | nil => simp
  | cons a rest ih =>
    have ha := h a List.mem_cons_self
    have hrest := ih fun b hb => h b (List.mem_cons_of_mem a hb)
    simp only [total_cons]
    omega

end SchemaForge

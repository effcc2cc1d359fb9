import PasswordGrant.Http.Request

/-!
# What a header can carry

The value of a header holds no control but the tab. A user and a password are encoded before they are
put into one, so nothing in them can keep a request back; a text that is put there as it is can.

* `Base64.forall_mem_encodeWith` : the characters of an encoded text;
* `Request.isHeaderValue_basicAuthorization` : the header for a user and a password;
* `Request.not_isHeaderValue_iff` : the texts that no header carries;
* `Request.any_unfit_addressed` : the headers of a request with user information in its address.
-/

namespace PasswordGrant

/-- What holds of the characters of six bits and of the padding holds of every encoded text. -/
theorem Base64.forall_mem_encodeWith {P : Char → Prop} {symbol : Nat → Char} {pad : List Char}
    (hsymbol : ∀ n, n < 64 → P (symbol n)) (hpad : ∀ c ∈ pad, P c) (bytes : List UInt8) :
    ∀ c ∈ encodeWith symbol pad bytes, P c := by
  fun_induction encodeWith symbol pad bytes with
  | case1 => exact List.forall_mem_nil _
  | case2 a =>
    have ha : a.toNat < 256 := a.toNat_lt
    simp only [List.forall_mem_cons, List.forall_mem_append]
    exact ⟨hsymbol _ (by omega), hsymbol _ (by omega), hpad, hpad⟩
  | case3 a b =>
    have ha : a.toNat < 256 := a.toNat_lt
    have hb : b.toNat < 256 := b.toNat_lt
    simp only [List.forall_mem_cons]
    exact ⟨hsymbol _ (by omega), hsymbol _ (by omega), hsymbol _ (by omega), hpad⟩
  | case4 a b c rest ih =>
    have ha : a.toNat < 256 := a.toNat_lt
    have hb : b.toNat < 256 := b.toNat_lt
    have hc : c.toNat < 256 := c.toNat_lt
    simp only [List.forall_mem_cons]
    exact ⟨hsymbol _ (by omega), hsymbol _ (by omega), hsymbol _ (by omega), hsymbol _ (by omega), ih⟩

namespace Request

/-- The characters that may stand in a header. -/
def isHeaderChar (c : Char) : Bool := c.toNat == 9 || (0x20 ≤ c.toNat && c.toNat != 0x7F)

theorem isHeaderChar_symbol {n : Nat} (h : n < 64) :
    isHeaderChar (Base64.symbol '+' '/' n) = true := by
  have all : ∀ m : Fin 64, isHeaderChar (Base64.symbol '+' '/' m.val) = true := by decide
  exact all ⟨n, h⟩

/-- A user and a password make a header that can be sent, whatever they hold. -/
theorem isHeaderValue_basicAuthorization (user password : String) :
    isHeaderValue (basicAuthorization user password).2 = true := by
  have hpad : ∀ c ∈ ['='], isHeaderChar c = true := by
    intro c hc
    rw [List.mem_singleton.mp hc]
    decide
  have hpair := Base64.forall_mem_encodeWith (P := fun c => isHeaderChar c = true)
    (fun n h => isHeaderChar_symbol h) hpad (Utf8.encode (user ++ ":" ++ password).toList)
  show ("Basic " ++ String.ofList (Base64.encode _)).toList.all isHeaderChar = true
  rw [String.toList_append, List.all_append, Bool.and_eq_true]
  refine ⟨by decide, ?_⟩
  rw [String.toList_ofList]
  exact List.all_eq_true.mpr hpair

/-- A control other than the tab. -/
def IsControl (c : Char) : Prop := (c.toNat < 0x20 ∧ c.toNat ≠ 9) ∨ c.toNat = 0x7F

/-- No header carries a text with a control in it, and any other text is carried. -/
theorem not_isHeaderValue_iff (s : String) :
    isHeaderValue s = false ↔ ∃ c ∈ s.toList, IsControl c := by
  have hchar : ∀ c, isHeaderChar c = false ↔ IsControl c := by
    intro c
    simp only [isHeaderChar, IsControl, Bool.or_eq_false_iff, Bool.and_eq_false_iff,
      beq_eq_false_iff_ne, decide_eq_false_iff_not, bne_eq_false_iff_eq]
    omega
  show s.toList.all isHeaderChar = false ↔ _
  simp only [List.all_eq_false, Bool.not_eq_true, hchar]

theorem isHeaderValue_append {front : String} (h : isHeaderValue front = true) (s : String) :
    isHeaderValue (front ++ s) = isHeaderValue s := by
  show (front ++ s).toList.all isHeaderChar = s.toList.all isHeaderChar
  have hfront : front.toList.all isHeaderChar = true := h
  rw [String.toList_append, List.all_append, hfront, Bool.true_and]

/-- The header that user information moves to does not keep a request back. -/
theorem any_unfit_addressed (method : Method) (url : Url) (headers : List (String × String))
    (body : String) :
    ((addressed method url headers body).headers.any fun h => !isHeaderValue h.2)
      = headers.any fun h => !isHeaderValue h.2 := by
  unfold addressed
  split
  · rfl
  · rw [List.any_cons, isHeaderValue_basicAuthorization, Bool.not_true, Bool.false_or]

end Request

end PasswordGrant

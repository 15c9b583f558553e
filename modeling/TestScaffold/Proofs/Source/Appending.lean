import TestScaffold.Proofs.Source.Leftmost

/-!
Scanning a text that goes on. A stretch that counts as an import has two quotes and no line feed
behind the second one. So one that runs over the end of a text into a further line has at most one
of them before that end, and no stretch stands behind the place where it begins: what was found in
the text is still found, and in front of everything else.
-/

namespace TestScaffold

namespace ImportStretch

variable (x : ImportStretch)

theorem two_le_countP_text : 2 ≤ x.text.countP isQuote := by
  have hquotation : 2 ≤ x.quotation.text.countP isQuote := by
    simp only [Quotation.text, List.countP_cons, List.countP_append, List.countP_nil, x.opens,
      x.closes, if_true]
    omega
  unfold text body
  rw [List.countP_append, List.countP_append]
  omega

/-- In front of a line feed a stretch has one quote at most. -/
theorem countP_le_one {front back : Text} (h : x.text = front ++ '\n' :: back) :
    front.countP isQuote ≤ 1 := by
  let opened := Written.importWord ++ x.head ++ (x.quotation.opening :: x.quotation.content)
  have htext : x.text = opened ++ x.quotation.closing :: x.ending := by
    simp [text, body, Quotation.text, opened]
  have hopened : opened.countP isQuote ≤ 1 := by
    have hword : Written.importWord.countP isQuote = 0 := by decide
    have hhead : x.head.countP isQuote = 0 := by
      rw [List.countP_eq_zero]
      intro c hc
      rw [x.isQuote_of_mem_head c hc]
      exact Bool.false_ne_true
    have hcontent : x.quotation.content.countP isQuote = 0 := by
      rw [List.countP_eq_zero]
      intro c hc
      rw [x.quotable.unquoted c hc]
      exact Bool.false_ne_true
    simp only [opened, List.countP_append, List.countP_cons, hword, hhead, hcontent]
    split <;> omega
  have hending : '\n' ∉ x.ending := by
    intro hmem
    rcases List.mem_append.mp hmem with hspace | hsemicolon
    · exact absurd (x.isSpace _ hspace) (by decide)
    · split at hsemicolon
      · exact absurd hsemicolon (by decide)
      · cases hsemicolon
  rw [htext] at h
  rcases List.append_eq_append_iff.mp h with ⟨more, hfront, hrest⟩ | ⟨more, hopen, -⟩
  · cases more with
    | nil =>
      obtain ⟨hclosing, -⟩ := List.cons.inj hrest
      have hcloses := x.closes
      rw [hclosing] at hcloses
      exact absurd hcloses (by decide)
    | cons c more =>
      obtain ⟨-, htail⟩ := List.cons.inj hrest
      rw [htail] at hending
      exact absurd (List.mem_append_right more List.mem_cons_self) hending
  · rw [hopen, List.countP_append] at hopened
    omega

variable {x} {a b rest : Text} {i : Nat}

theorem EndsBefore.append (h : x.EndsBefore rest) : x.EndsBefore (rest ++ '\n' :: b) := by
  rcases h with hsemicolon | hnext
  · exact Or.inl hsemicolon
  · right
    intro c hc
    cases rest with
    | nil =>
      obtain rfl : '\n' = c := Option.some.inj hc
      exact ⟨by decide, by decide⟩
    | cons d rest => exact hnext c hc

theorem EndsBefore.of_append (h : x.EndsBefore (rest ++ '\n' :: b)) : x.EndsBefore rest := by
  rcases h with hsemicolon | hnext
  · exact Or.inl hsemicolon
  · right
    intro c hc
    apply hnext
    rw [List.head?_append, hc]
    rfl

end ImportStretch

section

variable {a b : Text} {i j : Nat} {x y : ImportStretch}

theorem startsLine_append_iff (hi : i ≤ a.length) : StartsLine (a ++ b) i ↔ StartsLine a i := by
  unfold StartsLine
  by_cases hzero : i = 0
  · simp [hzero]
  · rw [List.getElem?_append_left (by omega)]

/-- A stretch stands where it stood when a line is added to the text. -/
theorem ImportStretch.StandsAt.append (h : x.StandsAt a i) : x.StandsAt (a ++ '\n' :: b) i := by
  have hstop := h.stop_le
  obtain ⟨hline, rest, htext, hends⟩ := h
  refine ⟨(startsLine_append_iff (by omega)).mpr hline, rest ++ '\n' :: b, ?_, hends.append⟩
  rw [List.drop_append_of_le_length (by omega), htext, List.append_assoc]

/-- A stretch that ends within the text stands there without the line that was added. -/
theorem ImportStretch.StandsAt.of_append (h : x.StandsAt (a ++ '\n' :: b) i)
    (hstop : i + x.text.length ≤ a.length) : x.StandsAt a i := by
  obtain ⟨hline, rest, htext, hends⟩ := h
  rw [List.drop_append_of_le_length (by omega)] at htext
  have hlength : x.text.length ≤ (a.drop i).length := by
    rw [List.length_drop]
    omega
  obtain ⟨back, hback⟩ := List.prefix_of_prefix_length_le (List.prefix_append _ _)
    (htext ▸ List.prefix_append _ _) hlength
  rw [← hback, List.append_assoc, List.append_cancel_left_eq] at htext
  refine ⟨(startsLine_append_iff (by omega)).mp hline, back, hback.symm, ?_⟩
  rw [← htext] at hends
  exact hends.of_append

/-- In front of a stretch in the text, none runs over its end. -/
theorem ImportStretch.StandsAt.stop_le_of_append (hx : x.StandsAt a i)
    (hy : y.StandsAt (a ++ '\n' :: b) j) (hji : j ≤ i) : j + y.text.length ≤ a.length := by
  by_contra hover
  have hstop := hx.stop_le
  have hfront : ∃ more, y.text = a.drop j ++ '\n' :: more := by
    obtain ⟨-, rest, htext, -⟩ := hy
    rw [List.drop_append_of_le_length (by omega)] at htext
    rcases List.append_eq_append_iff.mp htext with ⟨more, hmore, hrest⟩ | ⟨more, hmore, -⟩
    · cases more with
      | nil =>
        have hlength := congrArg List.length hmore
        rw [List.append_nil, List.length_drop] at hlength
        omega
      | cons c more =>
        obtain ⟨rfl, -⟩ := List.cons.inj hrest
        exact ⟨more, hmore⟩
    · have hlength := congrArg List.length hmore
      rw [List.length_drop, List.length_append] at hlength
      omega
  obtain ⟨more, hmore⟩ := hfront
  have hone := y.countP_le_one hmore
  have htwo : 2 ≤ (a.drop j).countP isQuote := by
    obtain ⟨-, rest, htext, -⟩ := hx
    have hstarts : x.text <+: a.drop i := ⟨rest, htext.symm⟩
    have hsuffix : a.drop i <:+ a.drop j := List.drop_suffix_drop_left a hji
    exact x.two_le_countP_text.trans (hstarts.sublist.trans hsuffix.sublist).countP_le
  omega

end

/-- The sightings in a text are the first ones when a line is added to it. -/
theorem Leftmost.exists_append {a : Text} {start : Nat} {found : List Sighting}
    (h : Leftmost a start found) (b : Text) :
    ∃ more, Leftmost (a ++ '\n' :: b) start (found ++ more) := by
  induction h with
  | nothing hnone => exact exists_leftmost _ _
  | @next start f found hfrom hstands hfirst hrest ih =>
    obtain ⟨more, hmore⟩ := ih
    refine ⟨more, .next hfrom hstands.append ?_ hmore⟩
    intro i hi hlt y hy
    exact hfirst i hi hlt y (hy.of_append (hstands.stop_le_of_append hy hlt.le))

/-- Appending a line changes nothing in what was scanned before it, however the text ends: the
statements are the same, and stand in front of those that the line adds. -/
theorem scan_append_keeps (s : ScanSettings) (a b : Text) :
    s.scan a <+: s.scan (a ++ '\n' :: b) := by
  obtain ⟨found, hfound⟩ := exists_leftmost a 0
  obtain ⟨more, hmore⟩ := hfound.exists_append b
  unfold ScanSettings.scan
  rw [hfound.importLines_eq, hmore.importLines_eq, List.map_append, List.filterMap_append]
  exact List.prefix_append _ _

end TestScaffold

import ClassVM.Text.Cluster

/-! # Clusters of ASCII texts

What is relied on of a way of cutting texts: nothing is lost, and an ASCII text is cut into single
characters and ends of lines. Extended grapheme clusters are cut like that, since in ASCII no
character joins another, but for a line feed behind a carriage return. -/

namespace ClassVM.Text

/-- Every character of the text is an ASCII character. -/
def IsAscii (text : String) : Prop := ∀ c ∈ text.toList, c.toNat < 0x80

-- The instance is named: another one goes through all characters that there are.
instance (text : String) : Decidable (IsAscii text) :=
  List.decidableBAll (fun c : Char => c.toNat < 0x80) text.toList

/-- The cluster is a single character, or a carriage return with its line feed. -/
def Cluster.Plain (cluster : Cluster) : Prop := (∃ c, cluster = [c]) ∨ cluster = ['\r', '\n']

/-- Every character by itself, but for a carriage return with its line feed. -/
def plainClusters : List Char → List Cluster
  | [] => []
  | '\r' :: '\n' :: rest => ['\r', '\n'] :: plainClusters rest
  | c :: rest => [c] :: plainClusters rest

namespace Segmenter

/-- The clusters of the text make up the text. -/
def Lossless (segment : Segmenter) (text : String) : Prop :=
  (segment text).flatten = text.toList

/-- If it is ASCII, the text is cut into single characters and ends of lines. -/
def CutsAscii (segment : Segmenter) (text : String) : Prop :=
  IsAscii text → segment text = plainClusters text.toList

end Segmenter

/-! ## Plain clusters -/

theorem flatten_plainClusters (text : List Char) : (plainClusters text).flatten = text := by
  fun_induction plainClusters text with
  | case1 => rfl
  | case2 rest ih => simp [ih]
  | case3 c rest _ ih => simp [ih]

theorem plain_of_mem_plainClusters {text : List Char} :
    ∀ cluster ∈ plainClusters text, cluster.Plain := by
  fun_induction plainClusters text with
  | case1 => simp
  | case2 rest ih => exact List.forall_mem_cons.2 ⟨.inr rfl, ih⟩
  | case3 c rest _ ih => exact List.forall_mem_cons.2 ⟨.inl ⟨c, rfl⟩, ih⟩

theorem plainClusters_cons {c next : Char} {rest : List Char} (h : ¬ (c = '\r' ∧ next = '\n')) :
    plainClusters (c :: next :: rest) = [c] :: plainClusters (next :: rest) := by
  rw [plainClusters]
  intro behind hc hrest
  exact h ⟨hc, (List.cons.inj hrest).1⟩

/-! ## Extended grapheme clusters -/

/-- In ASCII there are controls, which stand apart, and characters without a class of their own. -/
theorem breakClass_of_ascii {c : Char} (h : c.toNat < 0x80) :
    (breakClass c = .carriageReturn ∧ c = '\r') ∨ (breakClass c = .lineFeed ∧ c = '\n') ∨
      breakClass c = .control ∨ breakClass c = .other := by
  unfold breakClass
  split
  · next hreturn => exact .inl ⟨rfl, hreturn⟩
  · split
    · next hfeed => exact .inr (.inl ⟨rfl, hfeed⟩)
    · split
      · exact .inr (.inr (.inl rfl))
      · split
        · exact .inr (.inr (.inr rfl))
        · -- Of the characters without a letter or sign, one is left: deletion.
          have hdelete : c.toNat = 0x7F := by omega
          have hc : c = Char.ofNat 0x7F := by rw [← hdelete, Char.ofNat_toNat]
          rw [hc]
          exact .inr (.inr (.inl (by decide)))

theorem isolates_or_other {c : Char} (h : c.toNat < 0x80) :
    (breakClass c).isolates = true ∨ breakClass c = .other := by
  obtain ⟨hclass, -⟩ | ⟨hclass, -⟩ | hclass | hclass := breakClass_of_ascii h
  · exact .inl (by rw [hclass]; rfl)
  · exact .inl (by rw [hclass]; rfl)
  · exact .inl (by rw [hclass]; rfl)
  · exact .inr hclass

/-- Of ASCII characters, only a line feed joins the one before it, which is a carriage return. -/
theorem eq_lineFeed_of_joins {context : Context} {last c : Char}
    (hlast : context.last = breakClass last) (hascii : last.toNat < 0x80) (hc : c.toNat < 0x80)
    (h : context.joins c = true) : last = '\r' ∧ c = '\n' := by
  rw [Context.joins, hlast] at h
  split at h
  · next hline =>
      obtain ⟨hreturn, hfeed⟩ : breakClass last = .carriageReturn ∧ breakClass c = .lineFeed := by
        simpa using hline
      have hclass := breakClass_of_ascii hascii
      have hclass' := breakClass_of_ascii hc
      rw [hreturn] at hclass
      rw [hfeed] at hclass'
      exact ⟨by simpa using hclass, by simpa using hclass'⟩
  · split at h
    · cases h
    · -- Two characters that do not stand apart have no class, so nothing makes them join.
      next hinside =>
        obtain ⟨hother, hother'⟩ : breakClass last = .other ∧ breakClass c = .other := by
          have hkinds := isolates_or_other hascii
          have hkinds' := isolates_or_other hc
          simp_all
        have hconjunct : conjunctClass c = .other := by rw [conjunctClass, if_pos hc]
        simp [hother, hother', hconjunct, BreakClass.sameSyllable, BreakClass.attaches] at h

/-- The cluster read so far, latest character first, is an ASCII character or the end of a line. -/
def Context.Reading (context : Context) (current : List Char) : Prop :=
  (∃ c, c.toNat < 0x80 ∧ current = [c] ∧ context.last = breakClass c) ∨
    (current = ['\n', '\r'] ∧ context.last = breakClass '\n')

/-- What joins an ASCII cluster completes the end of a line. -/
theorem Context.Reading.push {context : Context} {current : List Char} {c : Char}
    (h : context.Reading current) (hc : c.toNat < 0x80) (hjoins : context.joins c = true) :
    (context.push c).Reading (c :: current) := by
  obtain ⟨last, hascii, rfl, hlast⟩ | ⟨rfl, hlast⟩ := h
  · obtain ⟨rfl, rfl⟩ := eq_lineFeed_of_joins hlast hascii hc hjoins
    exact .inr ⟨rfl, rfl⟩
  · have hfalse := (eq_lineFeed_of_joins hlast (by decide) hc hjoins).1
    exact absurd hfalse (by decide)

/-- A line feed joins a carriage return. -/
theorem joins_lineFeed {context : Context} (hlast : context.last = breakClass '\r') :
    context.joins '\n' = true := by
  rw [Context.joins, hlast]
  rfl

theorem clustersFrom_of_reading {context : Context} {current rest : List Char}
    (hcurrent : context.Reading current) (hrest : ∀ c ∈ rest, c.toNat < 0x80) :
    clustersFrom context current rest = plainClusters (current.reverse ++ rest) := by
  induction rest generalizing context current with
  | nil =>
      obtain ⟨c, -, rfl, -⟩ | ⟨rfl, -⟩ := hcurrent
      · simp [clustersFrom, plainClusters]
      · rfl
  | cons c rest ih =>
      obtain ⟨hc, hrest⟩ := List.forall_mem_cons.1 hrest
      rw [clustersFrom]
      split
      · next hjoins =>
          rw [ih (hcurrent.push hc hjoins) hrest]
          simp
      · next hapart =>
          have hstart : (Context.start c).Reading [c] := .inl ⟨c, hc, rfl, rfl⟩
          rw [ih hstart hrest]
          obtain ⟨last, -, rfl, hlast⟩ | ⟨rfl, -⟩ := hcurrent
          · have hline : ¬ (last = '\r' ∧ c = '\n') := by
              rintro ⟨rfl, rfl⟩
              exact hapart (joins_lineFeed hlast)
            exact (plainClusters_cons hline).symm
          · rfl

theorem lossless_clusters (text : String) : Segmenter.Lossless clusters text :=
  flatten_clusters text

theorem cutsAscii_clusters (text : String) : Segmenter.CutsAscii clusters text := by
  intro h
  unfold clusters
  split
  · next hnil => rw [hnil, plainClusters]
  · next c rest htext =>
      rw [IsAscii, htext] at h
      obtain ⟨hc, hrest⟩ := List.forall_mem_cons.1 h
      rw [htext]
      exact clustersFrom_of_reading (.inl ⟨c, hc, rfl, rfl⟩) hrest

/-! ## Texts of plain clusters -/

variable {text : List Cluster} {rest : List Char}

/-- Plain clusters start with the text's first character, unless it may start the end of a line. -/
theorem exists_cons_of_flatten {c : Char} (hplain : ∀ cluster ∈ text, cluster.Plain)
    (hc : c ≠ '\r') (h : text.flatten = c :: rest) :
    ∃ after, text = [c] :: after ∧ after.flatten = rest := by
  cases text with
  | nil => cases h
  | cons cluster after =>
      obtain ⟨⟨first, rfl⟩ | rfl, -⟩ := List.forall_mem_cons.1 hplain
      · obtain ⟨rfl, hrest⟩ := List.cons.inj h
        exact ⟨after, rfl, hrest⟩
      · exact absurd (List.cons.inj h).1.symm hc

theorem eq_nil_of_flatten (hplain : ∀ cluster ∈ text, cluster.Plain) (h : text.flatten = []) :
    text = [] := by
  cases text with
  | nil => rfl
  | cons cluster after =>
      obtain ⟨⟨first, rfl⟩ | rfl, -⟩ := List.forall_mem_cons.1 hplain <;> cases h

/-- Plain clusters are cut in front of every `;`. -/
theorem exists_append_of_flatten {name : List Char} (hplain : ∀ cluster ∈ text, cluster.Plain)
    (hname : ';' ∉ name) (h : text.flatten = name ++ ';' :: rest) :
    ∃ front after, text = front ++ [';'] :: after ∧ front.flatten = name ∧
      after.flatten = rest := by
  induction text generalizing name with
  | nil => simp at h
  | cons cluster text ih =>
      obtain ⟨hcluster, hplain⟩ := List.forall_mem_cons.1 hplain
      -- The name goes on for as long as the clusters do not reach its end.
      have hlonger : ∀ name', ';' ∉ name' → text.flatten = name' ++ ';' :: rest →
          name = cluster ++ name' → ∃ front after, cluster :: text = front ++ [';'] :: after ∧
            front.flatten = name ∧ after.flatten = rest := by
        intro name' hname' htext heq
        obtain ⟨front, after, rfl, rfl, hafter⟩ := ih hplain hname' htext
        exact ⟨cluster :: front, after, rfl, heq.symm, hafter⟩
      obtain ⟨c, rfl⟩ | rfl := hcluster
      · cases name with
        | nil =>
            obtain ⟨rfl, hrest⟩ := List.cons.inj h
            exact ⟨[], text, rfl, rfl, hrest⟩
        | cons first name =>
            obtain ⟨rfl, htext⟩ := List.cons.inj h
            exact hlonger name (List.not_mem_of_not_mem_cons hname) htext rfl
      · match name with
        | [] => cases h
        | [_] => cases h
        | first :: second :: name =>
            obtain ⟨rfl, hsecond⟩ := List.cons.inj h
            obtain ⟨rfl, htext⟩ := List.cons.inj hsecond
            have hname := List.not_mem_of_not_mem_cons (List.not_mem_of_not_mem_cons hname)
            exact hlonger name hname htext rfl

/-- A plain class name that is not ended has no `;` in it. -/
theorem not_mem_flatten {name : List Cluster} (hplain : ∀ cluster ∈ name, cluster.Plain)
    (h : [';'] ∉ name) : ';' ∉ name.flatten := by
  intro hmem
  obtain ⟨cluster, hcluster, hend⟩ := List.mem_flatten.1 hmem
  obtain ⟨c, rfl⟩ | rfl := hplain cluster hcluster
  · rw [List.mem_singleton.1 hend] at h
    exact h hcluster
  · exact absurd hend (by decide)

end ClassVM.Text

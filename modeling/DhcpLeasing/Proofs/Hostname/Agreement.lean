import DhcpLeasing.Proofs.Hostname

/-!
# Hostnames checked and hostnames repaired

An operator's hostname is checked and a client's is repaired. Both come out as the same names: what
the repair makes passes the check, and what passes the check needs no repair.

* `Hostname.HasLabels` says what a hostname is, by its labels;
* `Hostname.sanitize_eq_some_of_validate` says that a checked hostname needs no repair;
* `Hostname.normalizers_agree` says how the check and the repair fit together.
-/

namespace DhcpLeasing.Hostname

open Text

/-! ## Hostnames by their labels -/

/-- A label of a hostname. -/
structure LabelForm (label : List Char) : Prop where
  ne_nil : label ≠ []
  length_le : label.length ≤ 63
  /-- The characters are ASCII letters, digits and hyphens. -/
  char : ∀ c ∈ label, c.isAlphanum ∨ c = '-'
  head : label.head? ≠ some '-'
  last : label.getLast? ≠ some '-'

/-- What it means that a name is up to 253 bytes of labels, with a dot between each two. -/
def HasLabels (name : String) : Prop :=
  name.utf8ByteSize ≤ 253 ∧ ∃ labels : List (List Char), labels ≠ [] ∧
    (∀ label ∈ labels, LabelForm label) ∧ name.toList = ['.'].intercalate labels

variable {text name : String} {label : List Char} {c : Char}

lemma isLabel_iff : isLabel label ↔ LabelForm label := by
  simp only [isLabel, isLabelChar, Bool.and_eq_true, Bool.not_eq_true',
    List.isEmpty_eq_false_iff, decide_eq_true_eq, bne_iff_ne, List.all_eq_true, Bool.or_eq_true,
    beq_iff_eq]
  constructor
  · rintro ⟨⟨⟨⟨hne, hlength⟩, hhead⟩, hlast⟩, hchar⟩
    exact ⟨hne, hlength, hchar, hhead, hlast⟩
  · rintro ⟨hne, hlength, hchar, hhead, hlast⟩
    exact ⟨⟨⟨⟨hne, hlength⟩, hhead⟩, hlast⟩, hchar⟩

/-- Taking a name apart at its dots gives the labels that it was put together from. -/
lemma isName_iff : IsName name ↔ HasLabels name := by
  refine and_congr_right fun _ => ?_
  simp only [isLabel_iff]
  constructor
  · intro hlabels
    exact ⟨_, List.splitOn_ne_nil '.' _, hlabels, (List.intercalate_splitOn '.').symm⟩
  · rintro ⟨labels, hne, hlabels, heq⟩
    have hnodot : ∀ label ∈ labels, '.' ∉ label := by
      intro label hmem hdot
      exact absurd ((hlabels label hmem).char '.' hdot) (by decide)
    rwa [heq, List.splitOn_intercalate '.' hnodot hne]

/-! ## Nothing to repair -/

/-- A label is kept as it is. -/
lemma sanitizeLabel_of_isLabel (h : isLabel label) : sanitizeLabel label = label := by
  obtain ⟨-, hlength, hchar, hhead, hlast⟩ := isLabel_iff.1 h
  have hkept : ∀ c ∈ label, (if c.isAlphanum then c else '-') = c := by
    intro c hc
    split
    · rfl
    · next hnot => exact ((hchar c hc).resolve_left hnot).symm
  rw [sanitizeLabel, map_eq_self hkept,
    List.take_of_length_le (show label.length ≤ longestLabel from hlength),
    trimEnds_eq_self_of_ends]
  · rintro c hc
    exact beq_eq_false_iff_ne.2 fun heq => hhead (heq ▸ hc)
  · rintro c hc
    exact beq_eq_false_iff_ne.2 fun heq => hlast (heq ▸ hc)

/-- A hostname that the check has accepted needs no repair. -/
lemma sanitize_eq_some_of_validate (h : validate text = .ok name) (hne : name ≠ "") :
    sanitize text = some name := by
  obtain ⟨rfl, hempty | ⟨hlong, hlabels⟩⟩ := validate_eq_ok_iff.1 h
  · exact absurd hempty hne
  · have hparts : ((lowercase (trim text)).toList.splitOn '.').map sanitizeLabel =
        (lowercase (trim text)).toList.splitOn '.' :=
      map_eq_self fun label hlabel => sanitizeLabel_of_isLabel (hlabels label hlabel)
    have hkept : ((lowercase (trim text)).toList.splitOn '.').filter (!·.isEmpty) =
        (lowercase (trim text)).toList.splitOn '.' := by
      refine List.filter_eq_self.2 fun label hlabel => ?_
      simpa using (isLabel_iff.1 (hlabels label hlabel)).ne_nil
    simp only [sanitize, hparts, hkept, List.intercalate_splitOn, String.ofList_toList]
    rw [if_neg (by simpa [hne] using hlong)]

/-- **The check and the repair agree.** The check accepts a text that is empty or a hostname once it
is trimmed and in lowercase, and what it has accepted it accepts again. What the repair makes of a
text is a hostname that both the check and the repair leave alone. What the check accepts the repair
leaves alone, too, unless it is empty. -/
theorem normalizers_agree (text : String) :
    (∀ name, validate text = .ok name ↔
      name = lowercase (trim text) ∧ (name = "" ∨ HasLabels name)) ∧
    (∀ {name}, validate text = .ok name → validate name = .ok name) ∧
    (∀ {name}, sanitize text = some name →
      name ≠ "" ∧ validate name = .ok name ∧ sanitize name = some name) ∧
    ∀ {name}, validate text = .ok name → name ≠ "" → sanitize text = some name := by
  refine ⟨?_, validate_of_validate, ?_, sanitize_eq_some_of_validate⟩
  · intro name
    rw [validate_eq_ok_iff, isName_iff]
  · intro name h
    obtain ⟨hvalid, hne⟩ := validate_of_sanitize h
    exact ⟨hne, hvalid, sanitize_eq_some_of_validate hvalid hne⟩

/-- A name in capitals is checked and needs no repair; a name with other characters is repaired, and
then passes the check. -/
theorem exists_normalizers_agree :
    (validate " My-Host.LAN\n" = .ok "my-host.lan" ∧ sanitize "Ä1.my_host-" = some "1.my-host") ∧
      HasLabels "my-host.lan" ∧ validate "my-host.lan" = .ok "my-host.lan" ∧
        sanitize " My-Host.LAN\n" = some "my-host.lan" ∧ validate "1.my-host" = .ok "1.my-host" ∧
          sanitize "1.my-host" = some "1.my-host" := by
  have hchecked : validate " My-Host.LAN\n" = .ok "my-host.lan" := by decide +kernel
  have hrepaired : sanitize "Ä1.my_host-" = some "1.my-host" := by decide +kernel
  obtain ⟨haccepts, hagain, -, hleft⟩ := normalizers_agree " My-Host.LAN\n"
  obtain ⟨-, -, hmade, -⟩ := normalizers_agree "Ä1.my_host-"
  obtain ⟨-, hlabels⟩ := (haccepts _).1 hchecked
  exact ⟨⟨hchecked, hrepaired⟩, hlabels.resolve_left (by decide), hagain hchecked,
    hleft hchecked (by decide), (hmade hrepaired).2⟩

end DhcpLeasing.Hostname

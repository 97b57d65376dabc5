import KeyBench.Proofs.Case.Planning

/-!
# Streams of frames

The device receives frames as one stream of bytes, with nothing between them. The count in a frame
says where it ends, so the bytes that follow cannot be taken for a part of it
(`bytes_append_inj`), whatever the records look like. A stream therefore tells which batches it was
written for, and the streams that continue it are those of more batches (`streams_prefix_iff`).
-/

namespace KeyBench

namespace Frame

variable {f g : Frame}

theorem ext_events (h : f.events = g.events) : f = g := by
  obtain ⟨es, hes⟩ := f
  obtain ⟨_, _⟩ := g
  obtain rfl : es = _ := h
  rfl

theorem bytes_ne_nil (f : Frame) : f.bytes ≠ [] := by
  intro h
  have hlength := f.length_bytes
  rw [h, List.length_nil] at hlength
  simp only [headerLength] at hlength
  omega

/-- **A frame ends where its count says.** What follows it can be told from it. -/
theorem bytes_append_inj {s t : List UInt8} (h : f.bytes ++ s = g.bytes ++ t) : f = g ∧ s = t := by
  have hrest : UInt8.ofNat f.events.length :: (f.events.flatMap record ++ s) =
      UInt8.ofNat g.events.length :: (g.events.flatMap record ++ t) := by
    simpa [bytes] using h
  obtain ⟨hcount, _⟩ := List.cons.inj hrest
  have hevents : f.events.length = g.events.length := by
    rw [← f.toNat_count, ← g.toNat_count, hcount]
  have hlength : f.bytes.length = g.bytes.length := by
    rw [length_bytes, length_bytes, hevents]
  obtain ⟨hbytes, hst⟩ := List.append_inj h hlength
  refine ⟨ext_events ?_, hst⟩
  have hdecode := f.decode_bytes
  rw [hbytes, g.decode_bytes] at hdecode
  exact (Except.ok.inj hdecode).symm

/-- A frame that begins like another is that frame. -/
theorem eq_of_prefix_bytes (h : f.bytes <+: g.bytes) : f = g := by
  obtain ⟨s, hs⟩ := h
  exact (bytes_append_inj (hs.trans (List.append_nil g.bytes).symm)).1

/-- **A stream that begins with another one begins with its frames.** -/
theorem prefix_of_stream_prefix : ∀ {fs gs : List Frame},
    fs.flatMap bytes <+: gs.flatMap bytes → fs <+: gs
  | [], _, _ => List.nil_prefix
  | f :: fs, [], h => by
    rw [List.flatMap_cons, List.flatMap_nil, List.prefix_nil, List.append_eq_nil_iff] at h
    exact absurd h.1 f.bytes_ne_nil
  | f :: fs, g :: gs, ⟨s, hs⟩ => by
    rw [List.flatMap_cons, List.flatMap_cons, List.append_assoc] at hs
    obtain ⟨rfl, hrest⟩ := bytes_append_inj hs
    rw [List.prefix_cons_inj]
    exact prefix_of_stream_prefix ⟨s, hrest⟩

theorem stream_prefix_iff {fs gs : List Frame} :
    fs.flatMap bytes <+: gs.flatMap bytes ↔ fs <+: gs := by
  constructor
  · exact prefix_of_stream_prefix
  · rintro ⟨hs, rfl⟩
    rw [List.flatMap_append]
    exact List.prefix_append _ _

theorem stream_inj {fs gs : List Frame} (h : fs.flatMap bytes = gs.flatMap bytes) : fs = gs := by
  have hle : fs <+: gs := prefix_of_stream_prefix (h ▸ List.prefix_rfl)
  have hge : gs <+: fs := prefix_of_stream_prefix (h ▸ List.prefix_rfl)
  exact hle.eq_of_length_le hge.length_le

/-- **Frames are self-delimiting.** Batches that fit into frames have written forms, and the stream
of some batches begins with that of others if and only if the batches do. So equal streams are those
of equal batches, and no frame begins with another one. -/
theorem streams_prefix_iff {bs cs : List (List Event)} (hbs : ∀ b ∈ bs, b.length ≤ 255)
    (hcs : ∀ c ∈ cs, c.length ≤ 255) :
    ∃ xs ys : List (List UInt8),
      List.Forall₂ (fun b x => encode b = .ok x) bs xs ∧
      List.Forall₂ (fun c y => encode c = .ok y) cs ys ∧
      (xs.flatten <+: ys.flatten ↔ bs <+: cs) ∧
      (xs.flatten = ys.flatten ↔ bs = cs) ∧
      ∀ x ∈ xs, ∀ y ∈ ys, x <+: y → x = y := by
  obtain ⟨fs, rfl⟩ := exists_map_events_eq hbs
  obtain ⟨gs, rfl⟩ := exists_map_events_eq hcs
  have hinj : Function.Injective events := fun _ _ => ext_events
  refine ⟨fs.map bytes, gs.map bytes, (forall₂_encode_and_decode rfl).imp fun _ _ h => h.1,
    (forall₂_encode_and_decode rfl).imp fun _ _ h => h.1, ?_, ?_, ?_⟩
  · rw [← List.flatMap_def, ← List.flatMap_def, stream_prefix_iff,
      List.prefix_map_iff_of_injective hinj]
  · rw [← List.flatMap_def, ← List.flatMap_def, hinj.list_map.eq_iff]
    constructor
    · exact stream_inj
    · rintro rfl
      rfl
  · intro x hx y hy h
    obtain ⟨f, _, rfl⟩ := List.mem_map.mp hx
    obtain ⟨g, _, rfl⟩ := List.mem_map.mp hy
    rw [eq_of_prefix_bytes h]

/-- Batches may be empty, and a slot may be a byte of the marker, as that of Tab is. -/
theorem streams_prefix_iff_tab :
    (∀ b ∈ [[], [Event.press .tab]], b.length ≤ 255) ∧
    (∀ c ∈ [[], [Event.press .tab], []], c.length ≤ 255) ∧
    ∃ xs ys : List (List UInt8),
      List.Forall₂ (fun b x => encode b = .ok x) [[], [Event.press .tab]] xs ∧
      List.Forall₂ (fun c y => encode c = .ok y) [[], [Event.press .tab], []] ys ∧
      xs.flatten <+: ys.flatten ∧ xs.flatten ≠ ys.flatten := by
  have hbs : ∀ b ∈ [[], [Event.press .tab]], b.length ≤ 255 := by decide
  have hcs : ∀ c ∈ [[], [Event.press .tab], []], c.length ≤ 255 := by decide
  obtain ⟨xs, ys, hxs, hys, hprefix, heq, _⟩ := streams_prefix_iff hbs hcs
  refine ⟨hbs, hcs, xs, ys, hxs, hys, hprefix.mpr (by decide), ?_⟩
  rw [ne_eq, heq]
  decide

end Frame

end KeyBench

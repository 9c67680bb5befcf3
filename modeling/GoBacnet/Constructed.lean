import GoBacnet.Tags

/-!
# Sequences of tags

`parseSequence` reads tags until the data ends or a closing tag is seen. An opening tag
starts a nested sequence, which becomes one constructed element. One element budget is
shared by all levels; the nesting depth is bounded separately.
-/

namespace GoBacnet

lemma parseTagNumber_pos {data : Octets} {b0 t : UInt8} {off : Nat}
    (h : parseTagNumber data b0 = .ok (t, off)) : 0 < off := by
  unfold parseTagNumber at h
  split at h
  · split at h
    · split at h <;> simp_all
      omega
    · simp at h
  · simp at h
    omega

lemma parseTag_pos {data : Octets} {limits : DecodeLimits} {el : Element} {n : Nat}
    (h : parseTag data limits = .ok (el, n)) : 0 < n := by
  cases data with
  | nil => simp [parseTag] at h
  | cons b0 rest =>
    simp only [parseTag] at h
    cases ht : parseTagNumber (b0 :: rest) b0 with
    | error e => simp [ht, Bind.bind, Except.bind] at h
    | ok p =>
      have hpos := parseTagNumber_pos ht
      simp only [ht, Bind.bind, Except.bind, Pure.pure, Except.pure] at h
      split at h
      · simp at h; omega
      · split at h
        · simp at h; omega
        · split at h
          · split at h <;> simp at h
            omega
          · split at h
            · simp at h
            · split at h
              · simp [throw, throwThe, MonadExceptOf.throw] at h
              · split at h
                · simp at h
                · simp at h
                  omega

def checkDepth (limits : DecodeLimits) (depth : Int) : Except Err Unit :=
  if depth > limits.maxConstructedDepth then .error (limitExceeded "constructed depth") else .ok ()

def parseLoop (limits : DecodeLimits) (closeTag depth : Int) (data : Octets) (budget : Int)
    (elements : List Element) (off : Nat) : Except Err (List Element × Nat × Int) :=
  if hdata : data = [] then
    if closeTag ≥ 0 then .error (malformed ("missing closing tag " ++ toString closeTag))
    else .ok (elements, off, budget)
  else if budget ≤ 0 then .error (limitExceeded "max elements")
  else
    match hparse : parseTag data limits with
    | .error e => .error e
    | .ok (el, n) =>
      if el.closing then
        if closeTag ≥ 0 ∧ (el.tagNumber.toNat : Int) = closeTag then .ok (elements, off + n, budget)
        else .error (malformed ("unexpected closing tag " ++ toString el.tagNumber))
      else if el.opening then
        match checkDepth limits (depth + 1) with
        | .error e => .error e
        | .ok () =>
          match parseLoop limits el.tagNumber.toNat (depth + 1) (data.drop n) budget [] 0 with
          | .error e => .error e
          | .ok (inner, m, budget) =>
            -- The constructed element is counted after its content.
            parseLoop limits closeTag depth (data.drop (n + m)) (budget - 1)
              (elements ++ [.ctxConstructed el.tagNumber inner]) (off + n + m)
      else
        parseLoop limits closeTag depth (data.drop n) (budget - 1) (elements ++ [el]) (off + n)
termination_by data.length
decreasing_by
  all_goals
    have hn := parseTag_pos hparse
    have hlen := List.length_pos_iff.mpr hdata
    simp only [List.length_drop]
    omega

def parseSequence (data : Octets) (limits : DecodeLimits) (closeTag : Int) :
    Except Err (List Element × Nat) := do
  let limits := limits.normalize
  checkDepth limits 0
  let (elements, consumed, _) ← parseLoop limits closeTag 0 data limits.maxElements [] 0
  return (elements, consumed)

def appendContextTagged (dst : Octets) (tagNumber : UInt8) (body : List Element) :
    Except Err Octets := do
  if tagNumber = tagNumberReserved then throw (malformed "tag number 255 is reserved")
  let dst ← appendTags (appendContextOpenClose dst tagNumber true) body
  return appendContextOpenClose dst tagNumber false

lemma appendTag_ctxConstructed (dst : Octets) (tagNumber : UInt8) (body : List Element) :
    appendTag dst (.ctxConstructed tagNumber body) = appendContextTagged dst tagNumber body := by
  unfold appendTag appendContextTagged
  by_cases h : tagNumber = tagNumberReserved
  · simp [h]
    rfl
  · simp [h]

end GoBacnet

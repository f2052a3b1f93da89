import MessageBroker.Proofs.Broker.Links
/-!
# Administration and links publish nothing

Requests on the topology, attaching, detaching and destroying links change the registry by requests and registrations
only, and leave transactions and dispositions alone.
-/
namespace MessageBroker
namespace Broker

open Registry

variable {b b' : Broker}

theorem Administered.aside (h : Administered b b') : Aside b b' := by
  cases h with
  | refused ns => exact aside_noteAll b ns
  | granted granted copies ns => exact .of_flow granted.flow rfl rfl rfl
  | deleted granted es copies ns => exact .of_flow granted.flow rfl rfl rfl

/-- Registering a link at a destination is no concern of its entries. -/
theorem aside_links (b : Broker) (d : DestinationId) (x : Destination) (links : List PublishingLink)
    (hx : b.registry.get? d = some x) :
    Aside b { b with registry := b.registry.modify d fun _ => { x with links } } := by
  refine .of_flow (flow_modify b.registry d _ fun y hy => ?_) rfl rfl rfl
  rw [hx] at hy
  cases hy
  exact ⟨rfl, id, fun _ => rfl⟩

/-- **What is done with links publishes and answers nothing.** -/
theorem linkSteps_aside : LinkSteps Aside where
  refl := .refl
  trans := .trans
  administered := Administered.aside
  modifyLink := fun b l => aside_modifyLink b l
  receivers := fun _ _ => .of_flow (.refl _) rfl rfl rfl
  dynamicNodes := fun _ _ => .of_flow
    (.of_map (fun _ x => x) (fun _ => Option.map_id'.symm) fun _ x _ => .refl x) rfl rfl rfl
  links := aside_links

theorem yields_newLink (b : Broker) (name : String) (settings : LinkSettings) (formats : List Nat)
    (receiverOpen : Bool) : Yields b (b.newLink (.new name settings formats receiverOpen)).1 [] [] [] := by
  refine ⟨.refl _, (List.append_nil _).symm, fun hp l x r hx hr => ?_, fun l heard hl => ?_, Nat.le_refl _⟩
  · unfold link? newLink at hx
    rw [List.getElem?_append] at hx
    split at hx
    · exact hp l x r hx hr
    · rw [List.getElem?_singleton] at hx
      split at hx
      · cases hx
        cases hr
      · cases hx
  · unfold ear? link? newLink at *
    obtain ⟨x, hx, rfl⟩ := Option.map_eq_some_iff.1 hl
    rw [List.getElem?_append_left (List.getElem?_eq_some_iff.1 hx).1, hx]
    rfl

end Broker
end MessageBroker

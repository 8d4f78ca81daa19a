import Fleet.Listener.Network

/-!
# Listeners in front of an outlet

A conversation can report through a network instead of reporting to the outside world directly:
its events enter at the first listener of the network, and whatever the network makes of them is
asked of the outside world.
-/

namespace Fleet.Network

variable {E : Interface}

/-- Let a conversation report through a network. -/
def front {α : Type} (session : Work E α) : StateT Network (Session (World E)) α :=
  session.run answer
where
  /-- Events enter the network, all other questions pass. -/
  answer : (question : (World E).Question) →
      StateT Network (Session (World E)) ((World E).Answer question)
    | .inl (.send _ event) => (send 0 event).run
    | question => fun network => .ask question fun answer => .done (answer, network)

end Fleet.Network

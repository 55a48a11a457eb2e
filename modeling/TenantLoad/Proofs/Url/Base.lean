import TenantLoad.Proofs.Except
import TenantLoad.Url.Reader

/-!
# URLs that endpoints are found below

A URL with a special scheme has segments, so endpoints can be found relative to
it.  Unless it is that of a local file, it has a host.
-/

namespace TenantLoad
namespace Url

variable {scheme text : String} {input : List Char} {url : Url}

namespace Reader

/-- What is read behind two slashes has a host and a path of segments. -/
theorem exists_of_readAuthority
    (isRead : readAuthority scheme input = .ok url) :
    ∃ host path, url.host = some host ∧
      url.path = .rooted (readPath (isSpecialScheme scheme) path) := by
  unfold readAuthority at isRead
  simp only [bind, Except.bind, pure, Except.pure, throw, throwThe, MonadExceptOf.throw] at isRead
  repeat' split at isRead
  all_goals first
    | cases isRead
      exact ⟨_, _, rfl, rfl⟩
    | cases isRead

/-- A local file has a path of segments. -/
theorem exists_of_readFile
    (isRead : readFile input = .ok url) :
    url.scheme = fileScheme ∧
      ∃ path, url.path = .rooted (dropEmpty (readSegments true true path)) := by
  unfold readFile at isRead
  simp only [pure, Except.pure] at isRead
  split at isRead
  · split at isRead
    · split at isRead
      · cases isRead
        exact ⟨rfl, _, rfl⟩
      · split at isRead
        · cases isRead
          exact ⟨rfl, _, rfl⟩
        · obtain ⟨host, -, isRead⟩ := Except.bind_eq_ok_iff.mp isRead
          cases isRead
          exact ⟨rfl, _, rfl⟩
    · cases isRead
      exact ⟨rfl, _, rfl⟩
  · cases isRead
    exact ⟨rfl, _, rfl⟩

end Reader

/-- A URL is that of a local file, has a host, or is read as one without. -/
theorem cases_of_parse
    (isRead : parse text = .ok url) :
    (∃ rest, Reader.readFile rest = .ok url) ∨
      (∃ scheme rest, Reader.readAuthority scheme rest = .ok url) ∨
      ∃ scheme rest, isSpecialScheme scheme = false ∧ Reader.readLocal scheme rest = url := by
  unfold parse at isRead
  split at isRead
  · cases isRead
  · split at isRead
    · exact .inl ⟨_, isRead⟩
    · split at isRead
      · exact .inr (.inl ⟨_, _, isRead⟩)
      · rename_i notSpecial
        split at isRead
        · exact .inr (.inl ⟨_, _, isRead⟩)
        · exact .inr (.inr ⟨_, _, by simpa using notSpecial, Except.ok.inj isRead⟩)

/-- Endpoints can be found relative to a URL of a special scheme. -/
theorem isBase_of_parse
    (isRead : parse text = .ok url)
    (isSpecial : url.isSpecial = true) :
    url.isBase = true := by
  rcases cases_of_parse isRead with ⟨_, file⟩ | ⟨_, _, authority⟩ | ⟨scheme, _, notSpecial, rfl⟩
  · obtain ⟨-, path, rooted⟩ := Reader.exists_of_readFile file
    rw [isBase, rooted]
  · obtain ⟨_, path, -, rooted⟩ := Reader.exists_of_readAuthority authority
    rw [isBase, rooted]
  · exact absurd isSpecial (by simp [Url.isSpecial, Reader.readLocal, notSpecial])

/-- A URL of a special scheme has a host unless it is that of a local file. -/
theorem host_isSome_of_parse
    (isRead : parse text = .ok url)
    (isSpecial : url.isSpecial = true)
    (notFile : url.scheme ≠ fileScheme) :
    url.host.isSome = true := by
  rcases cases_of_parse isRead with ⟨_, file⟩ | ⟨_, _, authority⟩ | ⟨scheme, _, notSpecial, rfl⟩
  · exact absurd (Reader.exists_of_readFile file).1 notFile
  · obtain ⟨host, _, hasHost, -⟩ := Reader.exists_of_readAuthority authority
    rw [hasHost, Option.isSome_some]
  · exact absurd isSpecial (by simp [Url.isSpecial, Reader.readLocal, notSpecial])

end Url
end TenantLoad

import DataLayer.Files.Store
import DataLayer.Template.Basic
import DataLayer.Text.Lines

/-!
# Where templates come from

A project can keep templates of its own, one file for each, in one folder.  Otherwise the built-in
ones are used, from which a new project starts.  They produce classes for LINQ to SQL.
-/

namespace DataLayer
namespace TemplateName

/-- File around entity classes and data context. -/
def modelFrameLines : List String := [
  "//------------------------------------------------------------------------------",
  "// <auto-generated>",
  "//     This code was generated by dalgen.",
  "//     Changes to this file will be lost when the code is regenerated.",
  "// </auto-generated>",
  "//------------------------------------------------------------------------------",
  "",
  "using System;",
  "using System.Data.Linq;",
  "using System.Data.Linq.Mapping;",
  "using [BaseNamespace].[RepositoryNamespace];",
  "",
  "namespace [BaseNamespace].[ModelNamespace]",
  "\x7b",
  "//[Placeholder]",
  "\x7d"]

/-- File around repository classes. -/
def repositoryFrameLines : List String := [
  "//------------------------------------------------------------------------------",
  "// <auto-generated>",
  "//     This code was generated by dalgen.",
  "//     Changes to this file will be lost when the code is regenerated.",
  "// </auto-generated>",
  "//------------------------------------------------------------------------------",
  "",
  "using System;",
  "using System.Collections.Generic;",
  "using System.Linq;",
  "using [BaseNamespace].[ModelNamespace];",
  "",
  "namespace [BaseNamespace].[RepositoryNamespace]",
  "\x7b",
  "//[Placeholder]",
  "\x7d"]

/-- Access to the repository from the entity class. -/
def modelEntityLines : List String := [
  "    public partial class [TableName]",
  "    \x7b",
  "        public static [RepositoryName]<[TableName]> Repository",
  "        \x7b",
  "            get \x7b return new [RepositoryName]<[TableName]>(); \x7d",
  "        \x7d",
  "    \x7d"]

/-- Repository class of one table, open for additions. -/
def tableRepositoryLines : List String := [
  "    public partial class [TableName]Repository : [RepositoryName]<[TableName]>",
  "    \x7b",
  "    \x7d"]

/-- The data context, with a connection of its own or a given one. -/
def dataContextLines : List String := [
  "    public partial class [ContextName] : DataContext",
  "    \x7b",
  "        public [ContextName]()",
  "            : base([ContextConnection])",
  "        \x7b",
  "        \x7d",
  "",
  "        public [ContextName](string connection)",
  "            : base(connection)",
  "        \x7b",
  "        \x7d",
  "",
  "//[Placeholder]",
  "    \x7d"]

/-- The operations that all table repositories share. -/
def repositoryBaseLines : List String := [
  "    public class GenericRepository<TEntity> where TEntity : class",
  "    \x7b",
  "        protected virtual [ContextName] CreateContext()",
  "        \x7b",
  "            return new [ContextName]();",
  "        \x7d",
  "",
  "        public IList<TEntity> All()",
  "        \x7b",
  "            using (var context = CreateContext())",
  "            \x7b",
  "                return context.GetTable<TEntity>().ToList();",
  "            \x7d",
  "        \x7d",
  "",
  "        public IList<TEntity> Where(Func<TEntity, bool> predicate)",
  "        \x7b",
  "            using (var context = CreateContext())",
  "            \x7b",
  "                return context.GetTable<TEntity>().Where(predicate).ToList();",
  "            \x7d",
  "        \x7d",
  "",
  "        public void Insert(TEntity entity)",
  "        \x7b",
  "            using (var context = CreateContext())",
  "            \x7b",
  "                context.GetTable<TEntity>().InsertOnSubmit(entity);",
  "                context.SubmitChanges();",
  "            \x7d",
  "        \x7d",
  "",
  "        public void Delete(TEntity entity)",
  "        \x7b",
  "            using (var context = CreateContext())",
  "            \x7b",
  "                var table = context.GetTable<TEntity>();",
  "                table.Attach(entity);",
  "                table.DeleteOnSubmit(entity);",
  "                context.SubmitChanges();",
  "            \x7d",
  "        \x7d",
  "    \x7d"]

/-- The lines of the built-in template. -/
def builtinLines : TemplateName → List String
  | modelFrame => modelFrameLines
  | repositoryFrame => repositoryFrameLines
  | modelEntity => modelEntityLines
  | tableRepository => tableRepositoryLines
  | dataContext => dataContextLines
  | repositoryBase => repositoryBaseLines

/-- The text of the built-in template. -/
def builtin (name : TemplateName) : String :=
  Text.unlines name.builtinLines

end TemplateName

/-- The built-in templates as a source. -/
def TemplateSource.builtin : TemplateSource :=
  fun name => .ok name.builtin

namespace TemplateSource

variable {m : Type → Type} [Monad m] [FileStore m]

/-- The file of a template in a folder. -/
def pathIn (folder : String) (name : TemplateName) : String :=
  Path.join folder name.fileName

/-- Read one template from a folder. -/
def readOne (folder : String) (name : TemplateName) : m (Except TemplateError String) := do
  match ← FileStore.readText (pathIn folder name) with
  | .ok text => return .ok text
  | .error cause => return .error (.unreadable name (pathIn folder name) cause.message)

/-- Read all templates from a folder. -/
def readFolder (folder : String) : m TemplateSource := do
  let modelFrame ← readOne folder .modelFrame
  let repositoryFrame ← readOne folder .repositoryFrame
  let modelEntity ← readOne folder .modelEntity
  let tableRepository ← readOne folder .tableRepository
  let dataContext ← readOne folder .dataContext
  let repositoryBase ← readOne folder .repositoryBase
  return fun
    | .modelFrame => modelFrame
    | .repositoryFrame => repositoryFrame
    | .modelEntity => modelEntity
    | .tableRepository => tableRepository
    | .dataContext => dataContext
    | .repositoryBase => repositoryBase

end TemplateSource
end DataLayer

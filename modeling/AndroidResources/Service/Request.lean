import AndroidResources.Service.Assets
import AndroidResources.Service.Resources
import AndroidResources.Service.Themes

/-!
# Requests

All that a caller may ask of a service, and the forms that answers have.
-/
namespace AndroidResources

/-- What a caller asks of a service. -/
inductive Request where
  | loadSource (path : String) (content : Option String) (imports : List Handle)
  | addSource (source : Source)
  | sourcePath (source : Handle)
  | closeSource (source : Handle)
  | createManager
  | destroyManager (manager : Handle)
  | setSources (manager : Handle) (sources : List Handle) (invalidate : Bool)
  | setConfiguration (manager : Handle) (devices : List String) (defaultLocale : Option String)
      (refresh : Bool)
  | setLogging (manager : Handle) (logging : Bool)
  | lastResolution (manager : Handle)
  | packages (manager : Handle) (overlays loaders : Bool)
  | locales (manager : Handle) (withoutSystem : Bool)
  | configurations (manager : Handle) (withoutSystem withoutMipmaps : Bool)
  | name (manager : Handle) (id : ResourceId)
  | namePart (manager : Handle) (id : ResourceId) (part : Service.NamePart)
  | identifier (manager : Handle) (text : String) (defaultType defaultPackage : Option String)
  | value (manager : Handle) (id : ResourceId) (density : Int) (resolve : Bool)
  | bagValue (manager : Handle) (id : ResourceId) (key : UInt32)
  | styleAttributes (manager : Handle) (id : ResourceId)
  | parent (manager : Handle) (id : ResourceId)
  | stringArray (manager : Handle) (id : ResourceId)
  | stringPlaces (manager : Handle) (id : ResourceId)
  | intArray (manager : Handle) (id : ResourceId)
  | arraySize (manager : Handle) (id : ResourceId)
  | array (manager : Handle) (id : ResourceId)
  | openAsset (manager : Handle) (path : String)
  | openAssetIn (manager : Handle) (cookie : Int) (path : String)
  | listAssets (manager : Handle) (directory : String)
  | readByte (asset : Handle)
  | readBytes (asset : Handle)
  | seek (asset : Handle) (offset whence : Int)
  | assetSize (asset : Handle)
  | assetRemaining (asset : Handle)
  | closeAsset (asset : Handle)
  | createTheme (manager : Handle)
  | destroyTheme (theme : Handle)
  | applyToTheme (manager theme : Handle) (style : ResourceId) (force : Bool)
  | rebaseTheme (manager theme : Handle) (styles : List ResourceId) (force : List Bool) (count : Nat)
  | copyTheme (manager theme otherManager other : Handle)
  | clearTheme (theme : Handle)
  | themeValue (manager theme : Handle) (attr : ResourceId) (resolve : Bool)
  | themeChanges (theme : Handle)
  | themeLines (manager theme : Handle)
  | resolveAttributes (manager theme : Handle) (defaultAttr defaultId : ResourceId)
      (values : Option (List ResourceId)) (attrs : List ResourceId)
  | applyStyle (manager theme : Handle) (set : Option AttributeSet) (defaultAttr defaultId : ResourceId)
      (attrs : List ResourceId)
  | retrieveAttributes (manager : Handle) (set : AttributeSet) (attrs : List ResourceId)
  | styleStack (manager theme : Handle) (elementStyle defaultAttr defaultId : ResourceId)

/-- An answer to a request. -/
inductive Answer where
  | done
  | handle (h : Option Handle)
  | number (n : Int)
  | numbers (ns : Option (List Int))
  | text (s : Option String)
  | texts (ss : List String)
  | items (ss : Option (List (Option String)))
  | value (v : Option FlatValue)
  | name (n : Option ResourceName)
  | packages (ps : List (UInt8 × String))

namespace Request

/-- Does what is asked for. -/
def perform : Request → Operation Answer
  | loadSource path content imports => do
    pure (.handle (some (← Service.loadSource path content imports)))
  | addSource source => do pure (.handle (some (← Service.addSource source)))
  | sourcePath source => do pure (.text (some (← Service.sourcePath source)))
  | closeSource source => do Service.closeSource source; pure .done
  | createManager => do pure (.handle (some (← Service.createManager)))
  | destroyManager manager => do Service.destroyManager manager; pure .done
  | setSources manager sources invalidate => do
    Service.setSources manager sources invalidate
    pure .done
  | setConfiguration manager devices defaultLocale refresh => do
    Service.setConfiguration manager devices defaultLocale refresh
    pure .done
  | setLogging manager logging => do Service.setLogging manager logging; pure .done
  | lastResolution manager => do pure (.text (← Service.lastResolution manager))
  | packages manager overlays loaders => do pure (.packages (← Service.packages manager overlays loaders))
  | locales manager withoutSystem => do pure (.texts (← Service.locales manager withoutSystem))
  | configurations manager withoutSystem withoutMipmaps => do
    pure (.texts (← Service.configurations manager withoutSystem withoutMipmaps))
  | name manager id => do pure (.name (← Service.name manager id))
  | namePart manager id part => do pure (.text (← Service.namePart manager id part))
  | identifier manager text defaultType defaultPackage => do
    pure (.number (← Service.identifier manager text defaultType defaultPackage))
  | value manager id density resolve => do pure (.value (← Service.value manager id density resolve))
  | bagValue manager id key => do pure (.value (← Service.bagValue manager id key))
  | styleAttributes manager id => do pure (.numbers (← Service.styleAttributes manager id))
  | parent manager id => do pure (.number (← Service.parent manager id))
  | stringArray manager id => do pure (.items (← Service.stringArray manager id))
  | stringPlaces manager id => do pure (.numbers (← Service.stringPlaces manager id))
  | intArray manager id => do pure (.numbers (← Service.intArray manager id))
  | arraySize manager id => do pure (.number (← Service.arraySize manager id))
  | array manager id => do pure (.number (← Service.array manager id))
  | openAsset manager path => do pure (.handle (← Service.openAsset manager path))
  | openAssetIn manager cookie path => do pure (.handle (← Service.openAssetIn manager cookie path))
  | listAssets manager directory => do pure (.texts (← Service.listAssets manager directory))
  | readByte asset => do pure (.number (← Service.readByte asset))
  | readBytes asset => do pure (.number (← Service.readBytes asset))
  | seek asset offset whence => do pure (.number (← Service.seek asset offset whence))
  | assetSize asset => do pure (.number (← Service.assetSize asset))
  | assetRemaining asset => do pure (.number (← Service.assetRemaining asset))
  | closeAsset asset => do Service.closeAsset asset; pure .done
  | createTheme manager => do pure (.handle (some (← Service.createTheme manager)))
  | destroyTheme theme => do Service.destroyTheme theme; pure .done
  | applyToTheme manager theme style force => do
    Service.applyToTheme manager theme style force
    pure .done
  | rebaseTheme manager theme styles force count => do
    Service.rebaseTheme manager theme styles force count
    pure .done
  | copyTheme manager theme otherManager other => do
    Service.copyTheme manager theme otherManager other
    pure .done
  | clearTheme theme => do Service.clearTheme theme; pure .done
  | themeValue manager theme attr resolve => do
    pure (.value (← Service.themeValue manager theme attr resolve))
  | themeChanges theme => do pure (.number (← Service.themeChanges theme))
  | themeLines manager theme => do pure (.texts (← Service.themeLines manager theme))
  | resolveAttributes manager theme defaultAttr defaultId values attrs => do
    pure (.number (← Service.resolveAttributes manager theme defaultAttr defaultId values attrs))
  | applyStyle manager theme set defaultAttr defaultId attrs => do
    pure (.number (← Service.applyStyle manager theme set defaultAttr defaultId attrs))
  | retrieveAttributes manager set attrs => do
    pure (.number (← Service.retrieveAttributes manager set attrs))
  | styleStack manager theme elementStyle defaultAttr defaultId => do
    pure (.numbers (some (← Service.styleStack manager theme elementStyle defaultAttr defaultId)))

end Request

/-- The session after a request, with the answer to it. -/
def Session.serve (s : Session) (request : Request) : Except ResourceError Answer × Session :=
  request.perform.run s

end AndroidResources
